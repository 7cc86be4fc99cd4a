import LivePreview.Bootstrap
/-!
# LivePreview.Document

The **preview document**: a mount node, basic styles, a relay for the console and the bootstrap. The
console relay hands what the component writes to the console on to the parent window.
-/

namespace LivePreview

open Text (joinLines)

/-- A text inside a quoted attribute: the four marks that could end it or open something else are
written as references. -/
def escapeAttribute (value : String) : String :=
  String.ofList (value.toList.flatMap fun c =>
    if c = '&' then "&amp;".toList
    else if c = '"' then "&quot;".toList
    else if c = '<' then "&lt;".toList
    else if c = '>' then "&gt;".toList
    else [c])

/-- The script that relays the console. -/
def consoleRelay : String :=
  joinLines [
    "(() => \x7b",
    "  const serialize = (value) => \x7b",
    "    if (value instanceof Error) return value.stack || value.message;",
    "    if (typeof value === \"string\") return value;",
    "    try \x7b return JSON.stringify(value); \x7d catch (_) \x7b return String(value); \x7d",
    "  \x7d;",
    "  for (const level of [\"log\", \"info\", \"warn\", \"error\", \"debug\"]) \x7b",
    "    const original = console[level].bind(console);",
    "    console[level] = (...args) => \x7b",
    "      try \x7b parent.postMessage(\x7b type: \"console\", level, args: args.map(serialize) \x7d, \"*\"); \x7d catch (_) \x7b\x7d",
    "      original(...args);",
    "    \x7d;",
    "  \x7d",
    "\x7d)();"]

/-- The complete document of a preview. -/
def document (runtime : Runtime) (config : Config) (language : Language) (generation : UInt64) :
    String :=
  let mount := escapeAttribute config.mountNodeId
  joinLines [
    "<!DOCTYPE html>",
    "<html lang=\"en\">",
    "<head>",
    "<meta charset=\"utf-8\">",
    "<meta name=\"viewport\" content=\"width=device-width, initial-scale=1\">",
    "<title>Preview</title>",
    "<style>",
    "  html, body \x7b margin: 0; padding: 0; min-height: 100%; font-family: system-ui, -apple-system, sans-serif; \x7d",
    "  #" ++ mount ++ " \x7b min-height: 100vh; \x7d",
    "  .preview-error \x7b margin: 16px; padding: 12px 16px; border: 1px solid #f5c2c7; border-radius: 8px; background: #fff5f5; color: #842029; font: 13px/1.5 ui-monospace, monospace; \x7d",
    "  .preview-error pre \x7b white-space: pre-wrap; margin: 8px 0 0; \x7d",
    "  .preview-error ul \x7b margin: 8px 0 0; padding-left: 18px; \x7d",
    "</style>",
    "<script>",
    consoleRelay,
    "</script>",
    "</head>",
    "<body>",
    "<div id=\"" ++ mount ++ "\"></div>",
    "<script type=\"module\">",
    bootstrap runtime config language generation ++ "</script>",
    "</body>",
    "</html>",
    ""]

end LivePreview
