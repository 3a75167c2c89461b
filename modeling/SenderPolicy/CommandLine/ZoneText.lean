import SenderPolicy.Dns.Zone

/-! Zones as texts: a line holds a name, a record type and the data of a record, with white space between
them. Empty lines, and lines that begin with a semicolon, hold nothing. -/

namespace SenderPolicy.CommandLine

open Dns Text

/-- A record of a line: its name, its type and its data. -/
def readZoneLine (line : String) : Option (String × String × String) :=
  let s := stripped isBlank line.toList
  match placedWords 0 s with
  | (_, name) :: (_, type) :: (position, _) :: _ =>
    if name.head? = some ';' then none
    else some (Domain.withoutDots (Domain.normalized (String.ofList name)), (RecordType.ofText (String.ofList type)).text,
      String.ofList (s.drop position))
  | _ => none

/-- The zone with one more record. -/
def addRecord (zone : Zone) (name type data : String) : Zone :=
  let entries := (zone.lookup name).getD []
  let records := match entries.lookup type with
    | some (.fixed (.ok records)) => records
    | _ => []
  let entry := ZoneEntry.fixed (.ok (records ++ [.text data]))
  Zone.replaced zone [(name, some ((type, entry) :: entries.filter (·.1 != type)))]

/-- The zone that some lines write. -/
def readZone (lines : List String) : Zone :=
  (lines.filterMap readZoneLine).foldl (fun zone (name, type, data) => addRecord zone name type data) []

end SenderPolicy.CommandLine
