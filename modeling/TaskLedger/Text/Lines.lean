/-!
# Texts line by line

Longer texts are put together from lines.  Lines that show a tree begin with a branch, which differs
for the last one of its siblings.
-/

namespace TaskLedger.Text

/-- Lines, each with the character that ends it. -/
def lines (ls : List String) : String :=
  String.join (ls.map (· ++ "\n"))

/-- What the lines of siblings begin with. -/
def branch (isLast : Bool) : String :=
  if isLast then "└─" else "├─"

/-- The lines of siblings; each may have lines of its own below it, given that it is the last one or
not. -/
def siblings {α : Type} (write : Bool → α → List String) : List α → List String
  | [] => []
  | [last] => write true last
  | a :: later => write false a ++ siblings write later

/-- The lines of siblings behind the space that is left free in front of a tree. -/
def tree (items : List String) : List String :=
  siblings (fun isLast item => ["   " ++ branch isLast ++ " " ++ item]) items

/-- A title in a box. -/
def boxed (title : String) : List String :=
  let rule := String.ofList (List.replicate 62 '═')
  ["╔" ++ rule ++ "╗", "║" ++ title ++ "║", "╚" ++ rule ++ "╝"]

end TaskLedger.Text
