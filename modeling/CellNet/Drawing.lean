import CellNet.View
import CellNet.Scene
import CellNet.Markup
import CellNet.Decimal.Text

/-!
# The drawing

A scene is drawn as SVG, styled by a view. Lines come before circles, so cells are painted on top.
Every element carries its name, its class, its tooltip's name, and a title for viewers without the
page's script.
-/

namespace CellNet.Drawing

open Markup Decimal

/-- The arrow head that lines may refer to. -/
def definitions : String :=
  "<defs><marker id=\"arrow-head\" markerWidth=\"10\" markerHeight=\"10\" refX=\"10\" refY=\"3\" "
    ++ "orient=\"auto\" markerUnits=\"strokeWidth\" viewBox=\"0 0 20 20\">"
    ++ "<path d=\"M0,0 L0,6 L9,3 z\" fill=\"black\"/></marker></defs>\n"

/-- The opening tag, with the size of the canvas. -/
def opening (scene : Scene) : String :=
  let width := coordinate scene.width
  let height := coordinate scene.height
  "<svg" ++ attr "id" "viz-canvas" ++ attr "xmlns" "http://www.w3.org/2000/svg"
    ++ attr "width" width ++ attr "height" height
    ++ attr "viewBox" ("0 0 " ++ width ++ " " ++ height) ++ ">\n"

def element (tag name cssClass place tooltip : String) : String :=
  let id := escape name
  "<" ++ tag ++ attr "id" id ++ attr "class" cssClass ++ place
    ++ attr "data-tooltip" (escape tooltip) ++ "><title>" ++ id ++ "</title></" ++ tag ++ ">\n"

def line (view : View) (shape : LineShape) : String :=
  element "line" shape.id.text (view.linkClass shape.id)
    (attr "x1" (coordinate shape.start.x) ++ attr "y1" (coordinate shape.start.y)
      ++ attr "x2" (coordinate shape.stop.x) ++ attr "y2" (coordinate shape.stop.y))
    shape.tooltip

def circle (view : View) (radius : Float) (shape : NodeShape) : String :=
  element "circle" shape.id.name (view.nodeClass shape.id)
    (attr "cx" (coordinate shape.center.x) ++ attr "cy" (coordinate shape.center.y)
      ++ attr "r" (coordinate radius))
    shape.tooltip

def svg (scene : Scene) (view : View) : String :=
  opening scene ++ definitions
    ++ String.join (scene.lines.map (line view))
    ++ String.join (scene.nodes.map (circle view scene.radius))
    ++ "</svg>\n"

end CellNet.Drawing
