import SenderPolicy.Proofs.Pieces
import SenderPolicy.Record.Reader

/-! Errors of texts. Reading a macro string, the lengths of a directive or a whole record fails only because the text is
malformed or holds an input that is not foreseen; what is known of other domains plays no part in it. Checks of terms never
complain that a text is no term. -/

namespace SenderPolicy

open Text

variable {α β : Type}

/-- The failure lies in a text alone. -/
def Failure.IsTextual : Failure → Prop
  | .policy (.malformed _) | .fault _ => True
  | .policy _ => False

/-- The failure lies in the value of a term: the record has the shape of one, and its terms are told apart. -/
def Failure.IsInValue : Failure → Prop
  | .policy (.malformed (.record ..)) | .policy (.malformed (.term ..)) => False
  | x => x.IsTextual

theorem Failure.IsInValue.isTextual {x : Failure} (h : x.IsInValue) : x.IsTextual := by
  unfold IsInValue at h
  split at h
  · trivial
  · trivial
  · exact h

/-- If there is no value, the reason lies in a text alone. -/
def Textual (r : Except Failure α) : Prop := ∀ x, r = .error x → x.IsTextual

/-- If there is no value, the reason lies in the value of a term. -/
def InValue (r : Except Failure α) : Prop := ∀ x, r = .error x → x.IsInValue

namespace InValue

theorem ok (a : α) : InValue (.ok a) := fun _ => nofun

theorem error {x : Failure} (h : x.IsInValue) : InValue (.error x : Except Failure α) := fun _ hx => by
  cases hx
  exact h

theorem bind {r : Except Failure α} {f : α → Except Failure β} (h : InValue r) (hf : ∀ a, InValue (f a)) :
    InValue (r >>= f) := by
  cases r with
  | error x => exact error (h x rfl)
  | ok a => exact hf a

theorem map {r : Except Failure α} (h : InValue r) (f : α → β) : InValue (r.map f) := by
  cases r with
  | error x => exact error (h x rfl)
  | ok a => exact ok (f a)

theorem textual {r : Except Failure α} (h : InValue r) : Textual r := fun x hx => (h x hx).isTextual

end InValue

theorem isInValue_ofMacroString (domain value marker : String) (e : MacroStringError) :
    (Failure.ofMacroString domain value marker e).IsInValue := by
  cases e <;> trivial

theorem isTextual_ofMacroString (domain value marker : String) (e : MacroStringError) :
    (Failure.ofMacroString domain value marker e).IsTextual :=
  (isInValue_ofMacroString domain value marker e).isTextual

theorem inValue_readLength {width : Nat} {tooLong : SyntaxError} {run : Option (List Char)}
    (h : (Failure.malformed tooLong).IsInValue) : InValue (DualCidr.readLength width tooLong run) := by
  unfold DualCidr.readLength
  split
  · exact .ok _
  · split
    · exact .error trivial
    · split
      · exact .error h
      · exact .ok _

theorem inValue_ofDirective {d : Directive} : InValue (DualCidr.ofDirective d) := by
  unfold DualCidr.ofDirective
  dsimp only
  split
  · exact .error trivial
  · split
    · exact .error trivial
    · exact .bind (inValue_readLength trivial) fun _ => .bind (inValue_readLength trivial) fun _ => .ok _

theorem textual_ofDirective {d : Directive} : Textual (DualCidr.ofDirective d) := inValue_ofDirective.textual

namespace Record

theorem inValue_checkDomainSpec {domain marker spec : String} : InValue (checkDomainSpec domain marker spec) := by
  unfold checkDomainSpec
  split
  · exact .error (isInValue_ofMacroString ..)
  · split
    · exact .ok _
    · exact .error trivial

theorem inValue_checkNetwork {domain : String} {family : Family} {d : Directive} :
    InValue (checkNetwork domain family d) := by
  unfold checkNetwork
  split
  · exact .error trivial
  · split
    · exact .ok _
    · exact .error trivial

theorem inValue_checkDirective {domain marker : String} {d : Directive} : InValue (checkDirective domain marker d) := by
  unfold checkDirective
  split
  · exact inValue_checkNetwork
  · exact inValue_checkNetwork
  case h_3 | h_4 =>
    refine .bind inValue_ofDirective fun cidr => ?_
    split
    · exact .ok _
    · exact inValue_checkDomainSpec
  case h_5 | h_6 | h_7 =>
    split
    · exact .ok _
    · exact inValue_checkDomainSpec
  case h_8 | h_9 => exact .ok _

theorem inValue_checkModifier {domain marker : String} {m : Modifier} : InValue (checkModifier domain marker m) := by
  unfold checkModifier
  split
  · exact inValue_checkDomainSpec
  · split
    · exact .error (isInValue_ofMacroString ..)
    · exact .ok _

theorem textual_readTerm {record domain marker : String} {term : List Char} :
    Textual (readTerm record domain marker term) := by
  unfold readTerm
  dsimp only
  split
  · exact (inValue_checkDirective.map _).textual
  · split
    · exact (inValue_checkModifier.map _).textual
    · intro x hx
      cases hx
      trivial

/-- A text is called no term only if it is neither a directive nor a modifier. -/
theorem ofText?_of_readTerm {record domain marker source text : String} {marked : Marked} {term : List Char}
    (h : readTerm record domain marker term = .error (.malformed (.term source text marked))) :
    Directive.ofText? (String.ofList term) = none ∧ Modifier.ofText? (String.ofList term) = none ∧ source = domain ∧
      text = String.ofList term ∧ marked = ⟨(positionOf term record.toList).getD 0, marker, record⟩ := by
  unfold readTerm at h
  dsimp only at h
  split at h
  · exact (inValue_checkDirective.map _ _ h).elim
  · rename_i undirected
    split at h
    · exact (inValue_checkModifier.map _ _ h).elim
    · rename_i unmodified
      cases h
      exact ⟨undirected, unmodified, rfl, rfl, rfl⟩

/-- A record that cannot be read is at fault itself. -/
theorem textual_read {domain marker record : String} : Textual (read domain marker record) := by
  unfold read
  dsimp only
  split
  · intro x hx
    cases hx
    trivial
  · intro x hx
    obtain ⟨term, -, h⟩ := exists_error_of_mapM hx
    exact textual_readTerm x h

end Record

end SenderPolicy
