import CellNet.Drawing
import CellNet.Page.Style
import CellNet.Page.Script

/-!
# The page

A page is a drawing with its surroundings: style sheet, buttons for the stacked trees, a line for
notices, one hidden tooltip per tooltip name and, if the page is interactive, the buttons and the
script that talk to the server. Elements that share a tooltip name share the tooltip of the first of
them, lines before cells.
-/

namespace CellNet.Page

open Markup

/-- What a page shows besides its scene. -/
structure Options where
  title : String
  interactive : Bool := false
  /-- Shown above the drawing. -/
  notice : String := ""

/-- A tooltip: its name and what it says. -/
structure Tooltip where
  id : String
  label : String
deriving DecidableEq, Repr

/-- Keeps the first of the tooltips under each name. -/
def firstOfEach : List Tooltip → List Tooltip
  | [] => []
  | tip :: tips => tip :: (firstOfEach tips).filter (·.id ≠ tip.id)

def tooltips (scene : Scene) : List Tooltip :=
  firstOfEach <|
    scene.lines.map (fun shape => ⟨shape.tooltip, shape.id.text⟩) ++
      scene.nodes.map (fun shape => ⟨shape.tooltip, shape.id.name⟩)

/-- A tooltip on the page, hidden until the pointer is on its element. -/
def Tooltip.markup (tip : Tooltip) : String :=
  "<div" ++ attr "id" (escape tip.id) ++ attr "class" "tooltip"
    ++ attr "style" "display:none" ++ ">" ++ escape tip.label ++ "</div>\n"

def treeButton (tree : TreeId) : String :=
  let id := escape tree.name
  "<button" ++ attr "id" id ++ attr "class" "stackedtreebutton" ++ ">" ++ id
    ++ "</button>\n"

def head (title : String) : String :=
  "<!DOCTYPE html>\n<html lang=\"en\">\n<head>\n<meta charset=\"UTF-8\">\n<title>" ++ escape title
    ++ "</title>\n<style>" ++ stylesheet ++ "</style>\n</head>\n<body id=\"body\">\n"

/-- The buttons that talk to the server. -/
def serverButtons (interactive : Bool) : String :=
  if interactive then
    "<button id=\"visualize\">Visualize</button>\n<button id=\"reset\">Reset</button>\n"
  else ""

/-- The script, on interactive pages. -/
def scriptMarkup (interactive : Bool) : String :=
  if interactive then "<script>" ++ script ++ "</script>\n" else ""

def html (scene : Scene) (view : View) (options : Options) : String :=
  head options.title
    ++ "<div id=\"buttons\">\n" ++ serverButtons options.interactive
    ++ String.join (scene.stackedTrees.map treeButton) ++ "</div>\n"
    ++ "<div id=\"status\">" ++ escape options.notice ++ "</div>\n"
    ++ Drawing.svg scene view
    ++ String.join ((tooltips scene).map Tooltip.markup)
    ++ scriptMarkup options.interactive
    ++ "</body>\n</html>\n"

end CellNet.Page
