import LivePreview.Config
import LivePreview.Diagnostic
import LivePreview.InertLiteral
import LivePreview.Runtime
import LivePreview.Text.Line
import LivePreview.Tips
/-!
# LivePreview.Bootstrap

The **bootstrap** is the script that runs a component in its frame: it loads the framework and the
dependencies, compiles the module text, evaluates what the compiler gives and mounts the component.
Whatever fails on the way is shown in place of the component, under a title for the phase and with
tips.

The module text is never part of the script's code: it is an inert literal that the script hands
to the compiler, and only the compiler's output is evaluated.
-/

namespace LivePreview

open Text (joinLines)

/-! ### Parts -/

/-- The titles by kind, as an object. -/
def titles : String :=
  "\x7b " ++ ", ".intercalate (DiagnosticKind.all.map fun kind =>
    kind.key ++ ": " ++ inertLiteral kind.title) ++ " \x7d"

/-- The tips as a list that cannot close the script. -/
def tipTable : String :=
  String.ofList (Text.replaceAll "</".toList "<\\/".toList Tips.json.chars)

/-- The lines of statements, each behind a margin. -/
def indent (margin : String) (statements : List String) : String :=
  joinLines ((statements.flatMap fun s => Text.lineContents s.toList).map fun line =>
    margin ++ String.ofList line)

/-- The check that a newer build has not run in the document, if it is asked for. -/
def staleGuard (config : Config) : String :=
  if config.guardStaleMount then
    "  if (window.__previewGeneration !== __generation) return;\n"
  else ""

/-! ### The script -/

/-- The script that runs a component in its frame. -/
def bootstrap (runtime : Runtime) (config : Config) (language : Language) (generation : UInt64) :
    String :=
  joinLines [
    "(async () => \x7b",
    "  const __mount = document.getElementById(" ++ inertLiteral config.mountNodeId ++ ");",
    "  const __generation = " ++ toString generation ++ ";",
    "  window.__previewGeneration = Math.max(window.__previewGeneration || 0, __generation);",
    "  const __startedAt = Date.now();",
    "  const __source = " ++ inertLiteral runtime.moduleText ++ ";",
    "  const __plain = " ++ (if language.supportsJsx then "false" else "true") ++ ";",
    "  const __titles = " ++ titles ++ ";",
    "  const __tips = " ++ tipTable ++ ";",
    "  const __env = Object.create(null);",
    "",
    "  const __unbalanced = (s) => \x7b",
    "    const pairs = \x7b \")\": \"(\", \"]\": \"[\", \"\x7d\": \"\x7b\" \x7d;",
    "    const stack = [];",
    "    let quote = null;",
    "    for (let i = 0; i < s.length; i++) \x7b",
    "      const ch = s[i];",
    "      if (quote) \x7b if (ch === \"\\\\\") i++; else if (ch === quote) quote = null; continue; \x7d",
    "      if (ch === '\"' || ch === \"'\" || ch === \"`\") \x7b quote = ch; continue; \x7d",
    "      if (ch === \"/\" && s[i + 1] === \"/\") \x7b while (i < s.length && s[i] !== \"\\n\") i++; continue; \x7d",
    "      if (\"([\x7b\".includes(ch)) stack.push(ch);",
    "      else if (pairs[ch] && stack.pop() !== pairs[ch]) return true;",
    "    \x7d",
    "    return stack.length > 0;",
    "  \x7d;",
    "  const __tipsFor = (message) => \x7b",
    "    const out = [];",
    "    for (const t of __tips) \x7b",
    "      if (t.plainOnly && !__plain) continue;",
    "      const hay = t.target === \"source\" ? __source : message;",
    "      if (new RegExp(t.pattern).test(hay)) out.push(t.tip);",
    "    \x7d",
    "    if (__unbalanced(__source)) out.push(" ++ inertLiteral Tips.unbalancedTip ++ ");",
    "    return out;",
    "  \x7d;",
    "  const __showError = (kind, error) => \x7b",
    "    const message = (error && (error.stack || error.message)) || String(error);",
    "    const tips = kind === \"compile\" || kind === \"eval\" ? __tipsFor(message) : [];",
    "    const panel = document.createElement(\"div\");",
    "    panel.className = \"preview-error\";",
    "    const title = document.createElement(\"strong\");",
    "    title.textContent = __titles[kind] || \"Error\";",
    "    const pre = document.createElement(\"pre\");",
    "    pre.textContent = message;",
    "    panel.append(title, pre);",
    "    if (tips.length) \x7b",
    "      const list = document.createElement(\"ul\");",
    "      for (const tip of tips) \x7b",
    "        const item = document.createElement(\"li\");",
    "        item.textContent = tip;",
    "        list.append(item);",
    "      \x7d",
    "      panel.append(list);",
    "    \x7d",
    "    __mount.replaceChildren(panel);",
    "    console.error(\"[preview:\" + kind + \"]\", message);",
    "  \x7d;",
    "",
    "  let React, ReactDOM, Babel;",
    "  try \x7b",
    "    const __react = await import(" ++ inertLiteral config.frameworkUrl ++ ");",
    "    React = __react.default || __react;",
    "    const __dom = await import(" ++ inertLiteral config.domClientUrl ++ ");",
    "    ReactDOM = __dom.createRoot ? __dom : __dom.default || __dom;",
    "    __env.React = React;",
    "    __env.ReactDOM = ReactDOM;",
    "    __env.__noop = () => null;",
    "    __env.__injectStyle = (css, id) => \x7b",
    "      const style = document.createElement(\"style\");",
    "      style.dataset.previewStyle = id;",
    "      style.textContent = css;",
    "      document.head.append(style);",
    "    \x7d;",
    "    const __compiler = await import(" ++ inertLiteral config.compilerUrl ++ ");",
    "    Babel = __compiler.default || __compiler;",
    indent "    " runtime.loaderStatements,
    "  \x7d catch (error) \x7b",
    "    __showError(\"dependency\", error);",
    "    return;",
    "  \x7d",
    "",
    "  window.addEventListener(\"error\", (event) => __showError(\"runtime\", event.error || event.message));",
    "  window.addEventListener(\"unhandledrejection\", (event) => __showError(\"runtime\", event.reason));",
    "",
    "  if (Date.now() - __startedAt > " ++ toString config.dependencyBudgetMs ++ ") \x7b",
    "    __showError(\"timeout\", new Error(\"Dependencies took longer than " ++ toString config.dependencyBudgetMs ++ "ms to load.\"));",
    "    return;",
    "  \x7d",
    "",
    "  let __compiled;",
    "  try \x7b",
    "    __compiled = Babel.transform(__source, \x7b",
    "      filename: " ++ inertLiteral runtime.virtualFilename ++ ",",
    "      presets: " ++ language.presets ++ ",",
    "      sourceType: \"script\",",
    "      parserOpts: \x7b allowReturnOutsideFunction: true \x7d,",
    "    \x7d).code;",
    "  \x7d catch (error) \x7b",
    "    __showError(\"compile\", error);",
    "    return;",
    "  \x7d",
    "",
    "  window.React = React;",
    "  window.ReactDOM = ReactDOM;",
    "  let __resolveEntry;",
    "  try \x7b",
    "    __resolveEntry = new Function(\"__env\", __compiled)(__env);",
    "  \x7d catch (error) \x7b",
    "    __showError(\"eval\", error);",
    "    return;",
    "  \x7d",
    "",
    staleGuard config ++ "  try \x7b",
    "    const Entry = __resolveEntry();",
    "    ReactDOM.createRoot(__mount).render(React.createElement(Entry));",
    "  \x7d catch (error) \x7b",
    "    __showError(\"mount\", error);",
    "  \x7d",
    "\x7d)();",
    ""]

end LivePreview
