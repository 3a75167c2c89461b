import SenderPolicy.Dns.Client

/-! Zones: fixed data from which a resolver answers. An entry may answer differently from one time to the
next. -/

namespace SenderPolicy.Dns

/-- What a zone answers for one name and type: always the same, or one reply after another, the last of them
for good. -/
inductive ZoneEntry where
  | fixed (reply : Reply)
  | sequence (replies : List Reply)

/-- The entries of names, by the texts of record types. -/
abbrev Zone := List (String × List (String × ZoneEntry))

namespace Zone

/-- Whether a call asked for a name, apart from dots at its end, and a type. -/
def asked (name : String) (type : RecordType) (c : Call) : Bool :=
  Domain.withoutDots c.question.name == name && c.question.type == type

/-- The reply of an entry when it has been asked for some times before. -/
def ZoneEntry.reply (times : Nat) : ZoneEntry → Reply
  | .fixed reply => reply
  | .sequence replies => (replies[min times (replies.length - 1)]?).getD (.error .noAnswer)

/-- Answers from a zone. A name it does not hold does not exist; a type it does not hold has no answer. -/
def resolver (zone : Zone) : Resolver := fun calls q =>
  let name := Domain.withoutDots q.name
  match zone.lookup name with
  | none => .error .noSuchName
  | some types => match types.lookup q.type.text with
    | none => .error .noAnswer
    | some entry => ZoneEntry.reply (calls.countP (asked name q.type)) entry

/-- The zone with the entries of some names replaced or removed. -/
def replaced (zone : Zone) : List (String × Option (List (String × ZoneEntry))) → Zone
  | [] => zone
  | (name, entries) :: rest =>
    let others := zone.filter (·.1 != name)
    replaced (entries.elim others fun entries => (name, entries) :: others) rest

end Zone

end SenderPolicy.Dns
