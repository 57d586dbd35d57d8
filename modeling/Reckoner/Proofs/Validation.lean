import Reckoner.Proofs.Writing
/-!
# Validation of results

A result is put together from fields of any type. Each field is read by
itself, and what they are read as together is a draft. All that is asked of
a draft as a whole is that it has a value or an error and not both
(`Draft.result?_eq_error_iff`), so that the fields are accepted as a result
just where they are read as what it consists of
(`Result.ofFields_eq_ok_iff`).

What is accepted is in order for good: written out as fields again it is
accepted as itself (`Result.ofFields_fields`). With fields that are
right one by one, it is a matter of the value and the error alone whether a
result comes of them (`Result.ofFields_settles`).
-/

namespace Reckoner

namespace Record

variable {α β : Type} {fields : Fields} {name : String} {check : Check α}

/-- Two parts of a record are right together where each is. -/
theorem Checked.and_eq_ok_iff {x : Checked α} {y : Checked β} {a : α} {b : β} :
    x.and y = .ok (a, b) ↔ x = .ok a ∧ y = .ok b := by
  cases x <;> cases y <;> simp [Checked.and]

/-- A field that is there was taken as its check reads it. -/
theorem check_of_withDefault {default a : α} {v : Value}
    (h : fields.withDefault name default check = .ok a) (hv : fields.lookup name = some v) :
    check v = .ok a := by
  rw [Fields.withDefault, hv] at h
  exact mapError_eq_ok_iff.1 h

/-! ## Fields that may be null -/

/-- **A field is given** where it is there and is not null. -/
def Fields.Gives (fields : Fields) (name : String) : Prop :=
  ∃ v, fields.lookup name = some v ∧ v ≠ .null

/-- Only null stands for nothing. -/
theorem Value.orNull_of_ne_null {v : Value} (h : v ≠ .null) :
    Value.orNull check v = (check v).map some := by
  cases v <;> first | rfl | exact absurd rfl h

/-- **A field that may be null** is read as something just where it is
given. -/
theorem Fields.isSome_iff_gives {read : Option α}
    (h : fields.withDefault name none (Value.orNull check) = .ok read) :
    read.isSome = true ↔ fields.Gives name := by
  cases hv : fields.lookup name with
  | none =>
    rw [withDefault, hv] at h
    cases h
    simp [Gives, hv]
  | some v =>
    have hread := check_of_withDefault h hv
    by_cases hnull : v = .null
    · cases hnull
      cases hread
      simp [Gives, hv]
    · rw [Value.orNull_of_ne_null hnull] at hread
      have hgives : fields.Gives name := ⟨v, hv, hnull⟩
      cases hcheck : check v with
      | error complaint =>
        rw [hcheck] at hread
        cases hread
      | ok a =>
        rw [hcheck] at hread
        cases hread
        simp [hgives]

/-- The value of a field that is null where there is nothing to write. -/
def Value.ofOption (write : α → Value) : Option α → Value
  | none => .null
  | some a => write a

/-- What is written so is read back if each thing written is. -/
theorem Value.orNull_ofOption (write : α → Value) (h : ∀ a, check (write a) = .ok a)
    (hnull : ∀ a, write a ≠ .null) (a : Option α) :
    Value.orNull check (Value.ofOption write a) = .ok a := by
  cases a with
  | none => rfl
  | some a => rw [ofOption, orNull_of_ne_null (hnull a), h, Except.map]

end Record

open Record

/-- The number of a line is the whole number that was read. -/
theorem LineNumber.asInteger_of_check {v : Value} {n : LineNumber}
    (h : LineNumber.check v = .ok n) : v.asInteger = .ok (n.val : Int) := by
  obtain ⟨number, hnumber, h⟩ := bind_eq_ok_iff.1 h
  split at h
  next hpos =>
    cases h
    rw [hnumber, Int.toNat_of_nonneg (by omega)]
  · cases h

/-! ## Drafts -/

/-- **A draft of a result:** what its fields are read as, one by one. -/
structure Draft where
  expression : String
  lineNumber : LineNumber
  value : Option Float
  error : Option String
  kind : Option FaultKind

/-- The draft is what the fields are read as, each of which is right by
itself. -/
structure Draft.IsReadFrom (d : Draft) (fields : Fields) : Prop where
  expression : fields.required "expression" Value.asText = .ok d.expression
  lineNumber : fields.withDefault "line_number" .first LineNumber.check = .ok d.lineNumber
  value : fields.withDefault "result" none (Value.orNull Value.asNumber) = .ok d.value
  error : fields.withDefault "error" none (Value.orNull Value.asText) = .ok d.error
  kind : fields.withDefault "error_kind" none
    (Value.orNull (Value.asName (FaultKind.all.map FaultKind.name) FaultKind.ofName?)) = .ok d.kind

/-- The complaint about a draft with both a value and an error, or with
neither. -/
def oneOutcome : Issue :=
  ⟨none, .rule "Exactly one of 'result' or 'error' must be set"⟩

/-- What a result consists of, as a draft. -/
def Result.draft (r : Result) : Draft :=
  ⟨r.expression, r.lineNumber, r.value?, r.error?, r.kind⟩

namespace Draft

variable {d : Draft} {r : Result} {fields : Fields}

/-- The result of a draft, if it has one outcome. -/
def result? (d : Draft) : Checked Result := do
  return ⟨d.expression, d.lineNumber, ← Result.outcomeOf d.value d.error, d.kind⟩

/-- **A draft is refused** where it has both outcomes or neither. -/
theorem result?_eq_error_iff {issues : List Issue} :
    d.result? = .error issues ↔
      (d.value.isSome = true ↔ d.error.isSome = true) ∧ issues = [oneOutcome] := by
  obtain ⟨expression, lineNumber, value, error, kind⟩ := d
  cases value <;> cases error <;> simp [result?, Result.outcomeOf, oneOutcome, eq_comm]

/-- **And else is the draft of its result.** -/
theorem result?_eq_ok_iff : d.result? = .ok r ↔ d = r.draft := by
  obtain ⟨expression, lineNumber, value, error, kind⟩ := d
  obtain ⟨expression', lineNumber', outcome, kind'⟩ := r
  cases outcome <;> cases value <;> cases error <;>
    simp [result?, Result.outcomeOf, Result.draft, Result.value?, Result.error?]

/-- **The fields are accepted as their draft is.** -/
theorem IsReadFrom.ofFields_eq (h : d.IsReadFrom fields) : Result.ofFields fields = d.result? := by
  rw [Result.ofFields, h.expression, h.lineNumber, h.value, h.error, h.kind]
  rfl

end Draft

namespace Result

variable {r : Result} {fields : Fields}

/-- Fields that are accepted are right one by one. -/
theorem exists_isReadFrom (h : ofFields fields = .ok r) : ∃ d : Draft, d.IsReadFrom fields := by
  obtain ⟨⟨⟨expression, lineNumber⟩, ⟨value, error⟩, kind⟩, hall, -⟩ := bind_eq_ok_iff.1 h
  obtain ⟨hfirst, hrest⟩ := Checked.and_eq_ok_iff.1 hall
  obtain ⟨hexpression, hnumber⟩ := Checked.and_eq_ok_iff.1 hfirst
  obtain ⟨houtcome, hkind⟩ := Checked.and_eq_ok_iff.1 hrest
  obtain ⟨hvalue, herror⟩ := Checked.and_eq_ok_iff.1 houtcome
  exact ⟨⟨expression, lineNumber, value, error, kind⟩, hexpression, hnumber, hvalue, herror, hkind⟩

/-- **Fields are accepted as a result** just where they are read as what it
consists of. -/
theorem ofFields_eq_ok_iff : ofFields fields = .ok r ↔ r.draft.IsReadFrom fields := by
  constructor
  · intro h
    obtain ⟨d, hd⟩ := exists_isReadFrom h
    rw [hd.ofFields_eq, Draft.result?_eq_ok_iff] at h
    exact h ▸ hd
  · intro hd
    rw [hd.ofFields_eq, Draft.result?_eq_ok_iff]

/-- Of the value and the error of a result one is there. -/
theorem isSome_value?_eq (r : Result) : r.value?.isSome = !r.error?.isSome := by
  obtain ⟨expression, lineNumber, outcome, kind⟩ := r
  cases outcome <;> rfl

/-- It is the value where all is well. -/
theorem ok_eq_isSome_value? (r : Result) : r.ok = r.value?.isSome := by
  obtain ⟨expression, lineNumber, outcome, kind⟩ := r
  cases outcome <;> rfl

end Result

/-! ## Writing a result out -/

/-- **The fields of a result.** -/
def Result.fields (r : Result) : Fields :=
  [("expression", .text r.expression), ("line_number", .int r.lineNumber.val),
    ("result", .ofOption .float r.value?), ("error", .ofOption .text r.error?),
    ("error_kind", .ofOption (fun kind => .text kind.name) r.kind)]

namespace Result

/-- **A result is read back from its fields.** -/
theorem ofFields_fields (r : Result) : ofFields r.fields = .ok r := by
  have hkind (kind : FaultKind) :
      Value.asName (FaultKind.all.map FaultKind.name) FaultKind.ofName? (.text kind.name) =
        .ok kind := by
    simp [Value.asName]
  refine ofFields_eq_ok_iff.2 ⟨required_of_lookup rfl rfl,
    withDefault_of_lookup rfl (LineNumber.check_val r.lineNumber), ?_, ?_, ?_⟩
  · exact withDefault_of_lookup rfl
      (Value.orNull_ofOption .float (fun _ => rfl) (fun _ => Value.noConfusion) r.value?)
  · exact withDefault_of_lookup rfl
      (Value.orNull_ofOption .text (fun _ => rfl) (fun _ => Value.noConfusion) r.error?)
  · exact withDefault_of_lookup rfl
      (Value.orNull_ofOption (fun kind => .text kind.name) hkind (fun _ => Value.noConfusion)
        r.kind)

/-- **What is accepted is in order for good.** Its line is the number that
was read, which is at least one, or the first; one of value and error is
there, the one that was given; and written out as fields again it is
accepted as itself. With fields that are right one by one, what is refused
is just what was given both a value and an error, or neither. -/
theorem ofFields_settles (fields : Fields) :
    (∀ r, ofFields fields = .ok r →
      1 ≤ r.lineNumber.val ∧
      (∀ v, fields.lookup "line_number" = some v → v.asInteger = .ok (r.lineNumber.val : Int)) ∧
      r.value?.isSome = (!r.error?.isSome) ∧
      (r.value?.isSome = true ↔ fields.Gives "result") ∧
      (r.ok = true ↔ r.value?.isSome = true) ∧
      ofFields r.fields = .ok r) ∧
    ∀ d : Draft, d.IsReadFrom fields →
      ((∃ issues, ofFields fields = .error issues) ↔
        (fields.Gives "result" ↔ fields.Gives "error")) ∧
      ∀ issues, ofFields fields = .error issues → issues = [oneOutcome] := by
  refine ⟨fun r h => ?_, fun d hd => ?_⟩
  · have hd := ofFields_eq_ok_iff.1 h
    refine ⟨r.lineNumber.property, fun v hv => ?_, r.isSome_value?_eq,
      Fields.isSome_iff_gives hd.value, by rw [r.ok_eq_isSome_value?], r.ofFields_fields⟩
    exact LineNumber.asInteger_of_check (check_of_withDefault hd.lineNumber hv)
  · rw [hd.ofFields_eq]
    simp only [Draft.result?_eq_error_iff, Fields.isSome_iff_gives hd.value,
      Fields.isSome_iff_gives hd.error]
    simp

/-- A truth value is read as the number of a line, and null as nothing; with
a value beside the error the fields are refused, each of them right by
itself. -/
theorem ofFields_settles_null :
    let expression : String × Value := ("expression", .text "4/0")
    let error : String × Value := ("error", .text "Trying to divide by zero")
    let single : Fields := [expression, ("line_number", .bool true), ("result", .null), error]
    let double : Fields := [expression, ("result", .float 1.5), error]
    (∃ r, ofFields single = .ok r ∧ ofFields r.fields = .ok r) ∧
      (∃ d : Draft, d.IsReadFrom double) ∧ ofFields double = .error [oneOutcome] := by
  intro expression error single double
  obtain ⟨r, hr⟩ : ∃ r, ofFields single = .ok r := ⟨_, rfl⟩
  obtain ⟨-, -, -, -, -, hback⟩ := (ofFields_settles single).1 r hr
  let d : Draft := ⟨"4/0", .first, some 1.5, some "Trying to divide by zero", none⟩
  have hd : d.IsReadFrom double := ⟨rfl, rfl, rfl, rfl, rfl⟩
  have hboth : double.Gives "result" ↔ double.Gives "error" :=
    iff_of_true ⟨_, rfl, Value.noConfusion⟩ ⟨_, rfl, Value.noConfusion⟩
  obtain ⟨hrefused, hissues⟩ := (ofFields_settles double).2 d hd
  obtain ⟨issues, herror⟩ := hrefused.2 hboth
  exact ⟨⟨r, hr, hback⟩, ⟨d, hd⟩, by rw [herror, hissues issues herror]⟩

end Result

end Reckoner
