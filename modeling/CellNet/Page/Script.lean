/-!
# The script of an interactive page

The script forwards clicks to the server, shows its warnings, restyles the page by the class map of
each answer, and shows and hides tooltips.
-/

namespace CellNet.Page

def scriptLines : List String := [
  "function applyClasses(classes) \x7b",
  "    for (const [id, cls] of Object.entries(classes)) \x7b",
  "        const el = document.getElementById(id);",
  "        if (el) \x7b el.setAttribute(\"class\", cls); \x7d",
  "    \x7d",
  "\x7d",
  "function status(text) \x7b document.getElementById(\"status\").textContent = text || \"\"; \x7d",
  "async function post(path) \x7b",
  "    const res = await fetch(path, \x7b method: \"POST\" \x7d);",
  "    const body = await res.json().catch(() => (\x7b\x7d));",
  "    if (!res.ok) \x7b status(body.error || res.statusText); return null; \x7d",
  "    status((body.warnings || []).join(\"; \"));",
  "    if (body.classes) \x7b applyClasses(body.classes); \x7d",
  "    return body;",
  "\x7d",
  "function showTooltip(id) \x7b const t = document.getElementById(id); if (t) t.style.display = \"block\"; \x7d",
  "function hideTooltip(id) \x7b const t = document.getElementById(id); if (t) t.style.display = \"none\"; \x7d",
  "function wire() \x7b",
  "    for (const el of document.querySelectorAll(\"#viz-canvas circle, #viz-canvas line\")) \x7b",
  "        const kind = el.tagName === \"circle\" ? \"node\" : \"link\";",
  "        const id = encodeURIComponent(el.id);",
  "        el.addEventListener(\"click\", () => post(`/api/$\x7bkind\x7d/$\x7bid\x7d/click`));",
  "        el.addEventListener(\"dblclick\", () => post(`/api/$\x7bkind\x7d/$\x7bid\x7d/dblclick`));",
  "        el.addEventListener(\"mouseenter\", () => showTooltip(el.dataset.tooltip));",
  "        el.addEventListener(\"mouseleave\", () => hideTooltip(el.dataset.tooltip));",
  "    \x7d",
  "    for (const b of document.querySelectorAll(\".stackedtreebutton\")) \x7b",
  "        b.addEventListener(\"click\", () => post(`/api/stacked/$\x7bencodeURIComponent(b.id)\x7d`));",
  "    \x7d",
  "    document.getElementById(\"visualize\").addEventListener(\"click\", async () => \x7b",
  "        if (await post(\"/api/visualize\")) \x7b window.location.reload(); \x7d",
  "    \x7d);",
  "    document.getElementById(\"reset\").addEventListener(\"click\", () => post(\"/api/reset\"));",
  "\x7d",
  "window.addEventListener(\"load\", wire);"]

/-- The script. It begins on a line of its own. -/
def script : String := "\n" ++ String.join (scriptLines.map (· ++ "\n"))

end CellNet.Page
