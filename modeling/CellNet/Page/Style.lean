/-!
# The style of a page

One rule per line: what it applies to, and what it declares. The classes are those a view assigns.
-/

namespace CellNet.Page

structure Rule where
  selector : String
  declarations : String

/-- A rule as a line of the style sheet. -/
def Rule.text (rule : Rule) : String :=
  rule.selector ++ " \x7b " ++ rule.declarations ++ " \x7d\n"

/-- The rules of every page. -/
def rules : List Rule := [
  ⟨"body",
    "font-family: -apple-system, BlinkMacSystemFont, 'Segoe UI', Roboto, sans-serif; background: #fafafa; color: #222;"⟩,
  ⟨"#buttons",
    "margin: 8px 0;"⟩,
  ⟨"#buttons button",
    "margin-right: 4px;"⟩,
  ⟨"#status",
    "font-size: 0.85em; color: #a33; min-height: 1.2em;"⟩,
  ⟨".node",
    "fill: #4a90d9; stroke: #1d4f80; stroke-width: 2; cursor: pointer;"⟩,
  ⟨".nodeborder",
    "fill: #f5a623; stroke: #8a5a0b; stroke-width: 2; cursor: pointer;"⟩,
  ⟨".noderoot",
    "fill: #d0021b; stroke: #700; stroke-width: 3; cursor: pointer;"⟩,
  ⟨".noderootborder",
    "fill: #d0021b; stroke: #8a5a0b; stroke-width: 4; cursor: pointer;"⟩,
  ⟨".nodestacked",
    "fill: #7ed321; stroke: #3b6e0a; stroke-width: 3; cursor: pointer;"⟩,
  ⟨".nodestackedborder",
    "fill: #7ed321; stroke: #8a5a0b; stroke-width: 4; cursor: pointer;"⟩,
  ⟨".nodebroken",
    "fill: #9b9b9b; stroke: #4a4a4a; stroke-width: 2; stroke-dasharray: 3 2;"⟩,
  ⟨".link",
    "stroke: #9b9b9b; stroke-width: 4; cursor: pointer;"⟩,
  ⟨".linktree",
    "stroke: #d0021b; stroke-width: 6; cursor: pointer;"⟩,
  ⟨".linkstackedtree",
    "stroke: #7ed321; stroke-width: 6; cursor: pointer;"⟩,
  ⟨".linkbroken",
    "stroke: #4a4a4a; stroke-width: 4; stroke-dasharray: 6 4;"⟩,
  ⟨".tooltip",
    "position: fixed; top: 8px; right: 8px; padding: 4px 8px; background: #222; color: #fff; border-radius: 4px; font-size: 0.85em;"⟩]

/-- The style sheet. It begins on a line of its own. -/
def stylesheet : String := "\n" ++ String.join (rules.map Rule.text)

end CellNet.Page
