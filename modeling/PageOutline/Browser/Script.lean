import PageOutline.Page.Live
import PageOutline.Json.Printer

namespace PageOutline.Script

def lines (ls : List String) : String := String.intercalate "\n" ls

def handles : String := lines
  ["const R = window.__domRecipe || (window.__domRecipe = (function () \x7b",
   "    const nodes = [];",
   "    const ids = new WeakMap();",
   "    return \x7b",
   "        id(node) \x7b",
   "            let id = ids.get(node);",
   "            if (id === undefined) \x7b",
   "                id = nodes.length;",
   "                nodes.push(node);",
   "                ids.set(node, id);",
   "            \x7d",
   "            return id;",
   "        \x7d,",
   "        get(id) \x7b",
   "            const node = nodes[id];",
   "            if (!node || !node.isConnected) \x7b",
   "                throw \x7b unknown: id \x7d;",
   "            \x7d",
   "            return node;",
   "        \x7d,",
   "    \x7d;",
   "\x7d)());",
   ""]

def snapshot : String := lines
  ["(function () \x7b",
   "    const SKIPPED = new Set(['SCRIPT', 'STYLE', 'NOSCRIPT', 'TEMPLATE']);",
   "",
   "    function snapshot(element) \x7b",
   "        const rect = element.getBoundingClientRect();",
   "        const node = \x7b",
   "            tag_name: element.tagName.toLowerCase(),",
   "            attributes: \x7b\x7d,",
   "            children: [],",
   "            bounding_box: \x7b x: rect.x, y: rect.y, width: rect.width, height: rect.height \x7d,",
   "        \x7d;",
   "        for (const attr of element.attributes) \x7b",
   "            node.attributes[attr.name] = attr.value;",
   "        \x7d",
   "",
   "        for (const child of element.childNodes) \x7b",
   "            if (child.nodeType === Node.TEXT_NODE) \x7b",
   "                if (child.textContent) \x7b",
   "                    node.children.push(child.textContent);",
   "                \x7d",
   "            \x7d else if (child.nodeType === Node.ELEMENT_NODE && !SKIPPED.has(child.tagName)) \x7b",
   "                node.children.push(snapshot(child));",
   "            \x7d",
   "        \x7d",
   "        return node;",
   "    \x7d",
   "",
   "    return \x7b",
   "        viewport: \x7b x: 0, y: 0, width: window.innerWidth, height: window.innerHeight \x7d,",
   "        root: snapshot(document.documentElement),",
   "    \x7d;",
   "\x7d)()",
   ""]

/-- The script that evaluates an expression. An error is answered, too, and an unknown node by its
number. -/
def frame (expression : String) : String := lines
  ["(function () \x7b",
   handles,
   "try \x7b",
   "    const value = (" ++ expression ++ ");",
   "    return JSON.stringify(\x7b ok: value === undefined ? null : value \x7d);",
   "\x7d catch (e) \x7b",
   "    if (e && e.unknown !== undefined) \x7b",
   "        return JSON.stringify(\x7b unknown: e.unknown \x7d);",
   "    \x7d",
   "    return JSON.stringify(\x7b err: e && e.name ? e.name + ': ' + e.message : String(e) \x7d);",
   "\x7d",
   "\x7d)()"]

def documentElement : String := "R.id(document.documentElement)"

def nodeWith (id : NodeId) : String := "R.get(" ++ toString id ++ ")"

def onNode (function : String) (id : NodeId) : String :=
  "(" ++ function ++ ")(" ++ nodeWith id ++ ")"

def matchesOf (direct : Bool) : String :=
  if direct then "Array.from(ctx.children).filter((c) => c.matches(sel))"
  else "Array.from(ctx.querySelectorAll(sel))"

def ofQuestion : Question → String
  | .root => documentElement
  | .query context selector direct =>
    "((ctx, sel) => " ++ matchesOf direct ++ ".map((n) => R.id(n)))(" ++ nodeWith context ++ ", " ++
      Json.quote selector ++ ")"
  | .tag id => nodeWith id ++ ".tagName.toLowerCase()"
  | .text id => onNode "(n) => n.innerText ?? n.textContent ?? ''" id
  | .attr id name => nodeWith id ++ ".getAttribute(" ++ Json.quote name ++ ")"
  | .parent id => onNode "(n) => n.parentElement ? R.id(n.parentElement) : null" id
  | .box id =>
    "((r) => (\x7b x: r.x, y: r.y, width: r.width, height: r.height \x7d))(" ++ nodeWith id ++
      ".getBoundingClientRect())"
  | .viewport => "(\x7b x: 0, y: 0, width: window.innerWidth, height: window.innerHeight \x7d)"
  | .value id => onNode "(n) => 'value' in n ? String(n.value) : n.getAttribute('value')" id
  | .checked id => "!!" ++ nodeWith id ++ ".checked"
  | .markup id => nodeWith id ++ ".outerHTML"
  | .document => snapshot

def setAttribute (id : NodeId) (name value : String) : String :=
  nodeWith id ++ ".setAttribute(" ++ Json.quote name ++ ", " ++ Json.quote value ++ ")"

end PageOutline.Script
