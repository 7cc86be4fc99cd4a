import LivePreview.Embed
import LivePreview.InertLiteral
/-!
# LivePreview.Frame.Page

The **document of the bridge**: a frame without rights of its own, and the script that does what a
`Bridge` does. The script puts the frame script into documents; it does not map frames itself.
-/

namespace LivePreview.Frame

open Text (joinLines)

/-- The document of the bridge. -/
def bridgePage : String :=
  joinLines [
    "<!DOCTYPE html>",
    "<html lang=\"en\">",
    "<head>",
    "<meta charset=\"utf-8\">",
    "<title>Preview</title>",
    "<style>",
    "  html, body \x7b margin: 0; width: 100%; height: 100%; overflow: hidden; \x7d",
    "  #preview-frame \x7b display: block; border: 0; width: 100%; height: 100%; \x7d",
    "</style>",
    "</head>",
    "<body>",
    "<iframe id=\"preview-frame\" sandbox=\"allow-scripts\" title=\"Component preview\"></iframe>",
    "<script>",
    "(() => \x7b",
    "  const frame = document.getElementById(\"preview-frame\");",
    "  const ORIGIN = new URL(window.location.href).origin;",
    "  const FIXUP = " ++ inertLiteral Embed.fixupScript ++ ";",
    "  let listening = false;",
    "  let pending = null;",
    "",
    "  const post = (message) => parent.postMessage(message, ORIGIN);",
    "  const prepare = (html) => \x7b",
    "    const tag = \"<script>\" + FIXUP + \"<\\/script>\";",
    "    const head = html.match(/<head(?:\\s[^>]*)?>/i);",
    "    if (!head) return tag + html;",
    "    const at = head.index + head[0].length;",
    "    return html.slice(0, at) + tag + html.slice(at);",
    "  \x7d;",
    "",
    "  frame.addEventListener(\"load\", () => \x7b",
    "    if (!listening) \x7b",
    "      listening = true;",
    "      if (pending !== null) \x7b",
    "        frame.srcdoc = pending;",
    "        pending = null;",
    "      \x7d",
    "      return;",
    "    \x7d",
    "    post(\x7b type: \"preview:loaded\" \x7d);",
    "  \x7d);",
    "",
    "  window.addEventListener(\"message\", (event) => \x7b",
    "    const data = event.data;",
    "    if (event.source === frame.contentWindow) \x7b",
    "      if (data && data.type === \"console\") post(\x7b type: \"console\", level: data.level, args: data.args \x7d);",
    "      return;",
    "    \x7d",
    "    if (event.origin !== ORIGIN) return;",
    "    if (!data || data.type !== \"setPreviewHtml\" || typeof data.html !== \"string\") return;",
    "    post(\x7b type: \"preview:accepted\" \x7d);",
    "    const html = prepare(data.html);",
    "    if (listening) frame.srcdoc = html;",
    "    else pending = html;",
    "  \x7d);",
    "",
    "  frame.srcdoc = \"<!DOCTYPE html><title></title>\";",
    "\x7d)();",
    "</script>",
    "</body>",
    "</html>",
    ""]

end LivePreview.Frame
