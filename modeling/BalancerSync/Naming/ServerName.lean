import BalancerSync.Json.Value
import BalancerSync.Text.Quote

/-!
# Server names

A server name of a service is a literal host name, or a pattern when it starts with `~`; the
pattern is the name without that one leading `~`. Templates see a name as
`{Name, IsRegexp, Regexp}`.
-/

namespace BalancerSync.Naming

/-- A server name. -/
structure ServerName where
  text : String
  deriving Inhabited, DecidableEq

namespace ServerName

/-- A name is a pattern when it starts with `~`. -/
def isPattern (n : ServerName) : Bool := n.text.startsWith "~"

/-- The pattern of a name: the name without one leading `~`. -/
def pattern (n : ServerName) : String :=
  if n.isPattern then String.ofList (n.text.toList.drop 1) else n.text

/-- What templates see of a name. -/
def toJson (n : ServerName) : Json :=
  Json.mkObject [("Name", .string n.text), ("IsRegexp", .bool n.isPattern),
    ("Regexp", .string n.pattern)]

/-- The debug view of a name: `ServerName("<name>")`. -/
def debug (n : ServerName) : String := "ServerName(" ++ Text.quoted n.text ++ ")"

example : (ServerName.mk "~~x").pattern = "~x" := by cbv

end ServerName

end BalancerSync.Naming
