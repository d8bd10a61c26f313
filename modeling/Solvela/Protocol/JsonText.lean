import Solvela.Signer.ChannelWire

/-!
# The text of a JSON value

A JSON text says where it ends: what follows it can be told from it, if it does not go on with a
number. So texts that stand one after the other, with text between them that is no number, are
determined by the whole: `jsonText_append_inj`.

* `quoteJson_append_inj` and `number_append_inj`, texts and numbers;
* `elements_append_inj` and `fields_append_inj`, arrays and objects;
* `jsonText_append_inj` and `jsonText_inj`, values.
-/

namespace Solvela.Protocol

open Solvela.Signer (JsonValue quoteChar quoteJson hexDigits jsonText elementsText fieldsText)

/-! ## Strings -/

/-- The value of a lower hexadecimal digit. -/
def hexValue (c : Char) : ℕ := if c.isDigit then c.toNat - 48 else c.toNat - 87

/-- A character of a quoted string, and what follows it. -/
def unquote : List Char → Option (Char × List Char)
  | '\\' :: 'b' :: rest => some (Char.ofNat 8, rest)
  | '\\' :: 't' :: rest => some (Char.ofNat 9, rest)
  | '\\' :: 'n' :: rest => some (Char.ofNat 10, rest)
  | '\\' :: 'f' :: rest => some (Char.ofNat 12, rest)
  | '\\' :: 'r' :: rest => some (Char.ofNat 13, rest)
  | '\\' :: 'u' :: _ :: _ :: high :: low :: rest =>
    some (Char.ofNat (hexValue high * 16 + hexValue low), rest)
  | '\\' :: c :: rest => some (c, rest)
  | c :: rest => some (c, rest)
  | [] => none

section Strings

theorem hexValue_digitChar : ∀ n < 16, hexValue (Nat.digitChar n) = n := by decide

theorem unquote_quoteChar (c : Char) (rest : List Char) :
    unquote ((quoteChar c).toList ++ rest) = some (c, rest) := by
  have hchar : ∀ n, c.toNat = n → Char.ofNat n = c := fun n hn => by
    rw [← hn]
    exact Char.ofNat_toNat c
  unfold quoteChar
  split
  · subst_vars
    rfl
  split
  · subst_vars
    rfl
  split
  -- the five short escapes of control characters
  · rename_i h
    exact congrArg (fun c => some (c, rest)) (hchar 8 h)
  split
  · rename_i h
    exact congrArg (fun c => some (c, rest)) (hchar 9 h)
  split
  · rename_i h
    exact congrArg (fun c => some (c, rest)) (hchar 10 h)
  split
  · rename_i h
    exact congrArg (fun c => some (c, rest)) (hchar 12 h)
  split
  · rename_i h
    exact congrArg (fun c => some (c, rest)) (hchar 13 h)
  split
  · rename_i h
    -- the other control characters are written with two digits
    have hhigh := hexValue_digitChar (c.toNat / 16) (by omega)
    have hlow := hexValue_digitChar (c.toNat % 16) (by omega)
    have htext : ("\\u00" ++ hexDigits c.toNat).toList ++ rest =
        '\\' :: 'u' :: '0' :: '0' :: Nat.digitChar (c.toNat / 16) ::
          Nat.digitChar (c.toNat % 16) :: rest := by
      simp only [String.toList_append, hexDigits, String.toList_ofList]
      rfl
    rw [htext, unquote, hhigh, hlow, hchar _ (by omega)]
  -- what is left stands for itself
  · have hback : c ≠ '\\' := ‹¬c = '\\'›
    have htext : c.toString.toList ++ rest = c :: rest := by
      rw [Char.toString_eq_singleton, String.toList_singleton]
      rfl
    rw [htext, unquote.eq_def]
    split <;> simp_all

/-- A character of a quoted string can be told from what follows. -/
theorem quoteChar_append_inj {c c' : Char} {x y : List Char}
    (h : (quoteChar c).toList ++ x = (quoteChar c').toList ++ y) : c = c' ∧ x = y := by
  have hread := unquote_quoteChar c x
  rw [h, unquote_quoteChar] at hread
  obtain ⟨hc, hx⟩ := Prod.mk.inj (Option.some.inj hread)
  exact ⟨hc.symm, hx.symm⟩

/-- No quoted character begins with a quotation mark. -/
theorem quoteChar_head (c : Char) (x : List Char) :
    ((quoteChar c).toList ++ x).head? ≠ some '"' := by
  unfold quoteChar
  split
  · simp
  iterate 7 (split; · simp)
  rw [Char.toString_eq_singleton, String.toList_singleton]
  simpa using ‹¬c = '"'›

theorem quoted_append_inj : ∀ {s s' x y : List Char},
    s.flatMap (fun c => (quoteChar c).toList) ++ '"' :: x =
      s'.flatMap (fun c => (quoteChar c).toList) ++ '"' :: y → s = s' ∧ x = y := by
  intro s
  induction s with
  | nil =>
    intro s' x y h
    cases s' with
    | nil => exact ⟨rfl, (List.cons.inj h).2⟩
    | cons c s' =>
      rw [List.flatMap_cons, List.append_assoc] at h
      exact absurd (congrArg List.head? h).symm (quoteChar_head c _)
  | cons c s ih =>
    intro s' x y h
    cases s' with
    | nil =>
      rw [List.flatMap_cons, List.append_assoc] at h
      exact absurd (congrArg List.head? h) (quoteChar_head c _)
    | cons c' s' =>
      rw [List.flatMap_cons, List.flatMap_cons, List.append_assoc, List.append_assoc] at h
      obtain ⟨rfl, hrest⟩ := quoteChar_append_inj h
      obtain ⟨rfl, hx⟩ := ih hrest
      exact ⟨rfl, hx⟩

theorem quoteJson_toList (s : String) :
    (quoteJson s).toList = '"' :: (s.toList.flatMap (fun c => (quoteChar c).toList) ++ ['"']) := by
  rw [quoteJson, String.toList_append, String.toList_append, String.toList_join, List.flatMap_map]
  rfl

/-- A quoted string can be told from what follows. -/
theorem quoteJson_append_inj {s s' : String} {x y : List Char}
    (h : (quoteJson s).toList ++ x = (quoteJson s').toList ++ y) : s = s' ∧ x = y := by
  rw [quoteJson_toList, quoteJson_toList, List.cons_append, List.cons_append, List.append_assoc,
    List.append_assoc] at h
  obtain ⟨hs, hx⟩ := quoted_append_inj (List.cons.inj h).2
  exact ⟨String.toList_inj.mp hs, hx⟩

end Strings

/-! ## Values -/

/-- An optional member that is left out when there is none. -/
def optField {α : Type} (key : String) (json : α → JsonValue) : Option α → List (String × JsonValue)
  | none => []
  | some a => [(key, json a)]

/-- The characters of numbers. -/
def isNumberChar (c : Char) : Bool :=
  c.isDigit || c = '-' || c = '+' || c = '.' || c = 'e' || c = 'E'

mutual

/-- Every number of a value has a token of a number. -/
def NumbersOk : JsonValue → Prop
  | .num token => token.toList ≠ [] ∧ ∀ c ∈ token.toList, isNumberChar c = true
  | .arr values => ElementsOk values
  | .obj fields => FieldsOk fields
  | _ => True

/-- The same of the elements of an array. -/
def ElementsOk : List JsonValue → Prop
  | [] => True
  | value :: values => NumbersOk value ∧ ElementsOk values

/-- The same of the members of an object. -/
def FieldsOk : List (String × JsonValue) → Prop
  | [] => True
  | (_, value) :: fields => NumbersOk value ∧ FieldsOk fields

end

/-- What does not go on with a number. -/
def EndsNumber (x : List Char) : Prop := ∀ c ∈ x.head?, isNumberChar c = false

/-- What a value is, by its first character. -/
def kindOf (c : Char) : ℕ :=
  if c = 'n' then 0 else if c = 't' then 1 else if c = 'f' then 2 else if c = '"' then 4
  else if c = '[' then 5 else if c = '\x7b' then 6 else if isNumberChar c then 3 else 7

/-- What a value is. -/
def kind : JsonValue → ℕ
  | .null => 0
  | .bool b => if b then 1 else 2
  | .num _ => 3
  | .str _ => 4
  | .arr _ => 5
  | .obj _ => 6

section Values

theorem kindOf_number {c : Char} (h : isNumberChar c = true) : kindOf c = 3 := by
  have hne : ∀ {d : Char}, isNumberChar d = false → c ≠ d := by
    intro d hd heq
    rw [heq, hd] at h
    exact Bool.false_ne_true h
  rw [kindOf, if_neg (hne (by decide)), if_neg (hne (by decide)), if_neg (hne (by decide)),
    if_neg (hne (by decide)), if_neg (hne (by decide)), if_neg (hne (by decide)), if_pos h]

/-- The first character of a text says what the value is. -/
theorem exists_head {v : JsonValue} (h : NumbersOk v) :
    ∃ c rest, (jsonText v).toList = c :: rest ∧ kindOf c = kind v := by
  cases v with
  | null => exact ⟨'n', _, rfl, rfl⟩
  | bool b =>
    cases b with
    | true => exact ⟨'t', _, rfl, rfl⟩
    | false => exact ⟨'f', _, rfl, rfl⟩
  | num token =>
    rw [NumbersOk] at h
    obtain ⟨c, rest, hcons⟩ := List.exists_cons_of_ne_nil h.1
    refine ⟨c, rest, by rw [jsonText]; exact hcons, kindOf_number (h.2 c ?_)⟩
    rw [hcons]
    exact List.mem_cons_self
  | str s => exact ⟨'"', _, by rw [jsonText, quoteJson_toList], rfl⟩
  | arr values =>
    refine ⟨'[', (elementsText values ++ "]").toList, ?_, rfl⟩
    rw [jsonText, String.append_assoc, String.toList_append]
    rfl
  | obj fields =>
    refine ⟨'\x7b', (fieldsText fields ++ "\x7d").toList, ?_, rfl⟩
    rw [jsonText, String.append_assoc, String.toList_append]
    rfl

theorem kind_eq {v v' : JsonValue} (h : NumbersOk v) (h' : NumbersOk v') {x y : List Char}
    (heq : (jsonText v).toList ++ x = (jsonText v').toList ++ y) : kind v = kind v' := by
  obtain ⟨c, rest, hhead, hkind⟩ := exists_head h
  obtain ⟨c', rest', hhead', hkind'⟩ := exists_head h'
  rw [hhead, hhead', List.cons_append, List.cons_append] at heq
  rw [← hkind, ← hkind', (List.cons.inj heq).1]

/-- No value begins with the end of an array. -/
theorem jsonText_ne_bracket {v : JsonValue} (h : NumbersOk v) {x y : List Char} :
    (jsonText v).toList ++ x ≠ ']' :: y := by
  intro heq
  obtain ⟨c, rest, hhead, hkind⟩ := exists_head h
  rw [hhead, List.cons_append] at heq
  rw [(List.cons.inj heq).1] at hkind
  have hseven : kindOf ']' = 7 := by decide
  have hlt : kind v < 7 := by
    cases v with
    | bool b => cases b <;> decide
    | _ => simp [kind]
  omega

/-- A number can be told from what follows. -/
theorem number_append_inj : ∀ {token token' x y : List Char},
    (∀ c ∈ token, isNumberChar c = true) → (∀ c ∈ token', isNumberChar c = true) →
    EndsNumber x → EndsNumber y → token ++ x = token' ++ y → token = token' ∧ x = y := by
  intro token
  induction token with
  | nil =>
    intro token' x y _ htoken' hx _ heq
    cases token' with
    | nil => exact ⟨rfl, heq⟩
    | cons c token' =>
      rw [List.nil_append] at heq
      have hend := hx c (by rw [heq]; rfl)
      rw [htoken' c List.mem_cons_self] at hend
      exact absurd hend.symm Bool.false_ne_true
  | cons c token ih =>
    intro token' x y htoken htoken' hx hy heq
    cases token' with
    | nil =>
      rw [List.nil_append] at heq
      have hend := hy c (by rw [← heq]; rfl)
      rw [htoken c List.mem_cons_self] at hend
      exact absurd hend.symm Bool.false_ne_true
    | cons c' token' =>
      rw [List.cons_append, List.cons_append] at heq
      obtain ⟨rfl, hrest⟩ := List.cons.inj heq
      rw [List.forall_mem_cons] at htoken htoken'
      obtain ⟨rfl, hxy⟩ := ih htoken.2 htoken'.2 hx hy hrest
      exact ⟨rfl, hxy⟩

/-- What follows the first element of an array. -/
def elementsTail : List JsonValue → List Char
  | [] => [']']
  | value :: values => ',' :: ((jsonText value).toList ++ elementsTail values)

/-- What follows the first member of an object. -/
def fieldsTail : List (String × JsonValue) → List Char
  | [] => ['\x7d']
  | (key, value) :: fields =>
    ',' :: ((quoteJson key).toList ++ (':' :: ((jsonText value).toList ++ fieldsTail fields)))

theorem elementsText_cons (value : JsonValue) (values : List JsonValue) :
    (elementsText (value :: values)).toList ++ [']'] =
      (jsonText value).toList ++ elementsTail values := by
  induction values generalizing value with
  | nil => rw [elementsText]; rfl
  | cons next values ih =>
    rw [elementsText, String.toList_append, String.toList_append, List.append_assoc, ih,
      elementsTail, List.append_assoc]
    · rfl
    · simp

theorem fieldsText_cons (key : String) (value : JsonValue) (fields : List (String × JsonValue)) :
    (fieldsText ((key, value) :: fields)).toList ++ ['\x7d'] =
      (quoteJson key).toList ++ (':' :: ((jsonText value).toList ++ fieldsTail fields)) := by
  induction fields generalizing key value with
  | nil =>
    rw [fieldsText, String.toList_append, String.toList_append, List.append_assoc,
      List.append_assoc]
    rfl
  | cons next fields ih =>
    obtain ⟨key', value'⟩ := next
    rw [fieldsText, String.toList_append, List.append_assoc, ih, fieldsTail]
    · simp only [String.toList_append, List.append_assoc]
      rfl
    · simp

theorem endsNumber_elementsTail (values : List JsonValue) (x : List Char) :
    EndsNumber (elementsTail values ++ x) := by
  cases values with
  | nil => rintro c ⟨⟩; decide
  | cons value values => rintro c ⟨⟩; decide

theorem endsNumber_fieldsTail (fields : List (String × JsonValue)) (x : List Char) :
    EndsNumber (fieldsTail fields ++ x) := by
  cases fields with
  | nil => rintro c ⟨⟩; decide
  | cons field fields => rintro c ⟨⟩; decide

end Values

section Inj

mutual

/-- A value's text can be told from what follows, if that does not go on with a number. -/
theorem jsonText_append_inj : ∀ (v v' : JsonValue) {x y : List Char}, NumbersOk v → NumbersOk v' →
    EndsNumber x → EndsNumber y → (jsonText v).toList ++ x = (jsonText v').toList ++ y →
    v = v' ∧ x = y
  | v, v', x, y, h, h', hx, hy, heq => by
    have hkind := kind_eq h h' heq
    -- values of two kinds begin with two characters
    cases v with
    | null =>
      cases v' with
      | null => exact ⟨rfl, List.append_cancel_left heq⟩
      | bool b => cases b <;> exact absurd hkind (by decide)
      | _ => exact absurd hkind (by simp [kind])
    | bool b =>
      cases v' with
      | bool b' =>
        cases b <;> cases b' <;> first
          | exact ⟨rfl, List.append_cancel_left heq⟩
          | exact absurd hkind (by decide)
      | _ => cases b <;> exact absurd hkind (by simp [kind])
    -- a number has no end of its own: what follows must not go on with it
    | num token =>
      cases v' with
      | num token' =>
        rw [NumbersOk] at h h'
        rw [jsonText, jsonText] at heq
        obtain ⟨htoken, hxy⟩ := number_append_inj h.2 h'.2 hx hy heq
        exact ⟨by rw [String.toList_inj.mp htoken], hxy⟩
      | bool b => cases b <;> exact absurd hkind (by simp [kind])
      | _ => exact absurd hkind (by simp [kind])
    | str s =>
      cases v' with
      | str s' =>
        rw [jsonText, jsonText] at heq
        obtain ⟨rfl, hxy⟩ := quoteJson_append_inj heq
        exact ⟨rfl, hxy⟩
      | bool b => cases b <;> exact absurd hkind (by simp [kind])
      | _ => exact absurd hkind (by simp [kind])
    -- after the bracket the elements are compared one by one
    | arr values =>
      cases v' with
      | arr values' =>
        rw [NumbersOk] at h h'
        have hinner : ((elementsText values).toList ++ [']']) ++ x =
            ((elementsText values').toList ++ [']']) ++ y := by
          rw [jsonText, jsonText] at heq
          simp only [String.toList_append, List.append_assoc] at heq
          simp only [List.append_assoc]
          exact List.append_cancel_left heq
        obtain ⟨rfl, hxy⟩ := elements_append_inj values values' h h' hinner
        exact ⟨rfl, hxy⟩
      | bool b => cases b <;> exact absurd hkind (by simp [kind])
      | _ => exact absurd hkind (by simp [kind])
    | obj fields =>
      cases v' with
      | obj fields' =>
        rw [NumbersOk] at h h'
        have hinner : ((fieldsText fields).toList ++ ['\x7d']) ++ x =
            ((fieldsText fields').toList ++ ['\x7d']) ++ y := by
          rw [jsonText, jsonText] at heq
          simp only [String.toList_append, List.append_assoc] at heq
          simp only [List.append_assoc]
          exact List.append_cancel_left heq
        obtain ⟨rfl, hxy⟩ := fields_append_inj fields fields' h h' hinner
        exact ⟨rfl, hxy⟩
      | bool b => cases b <;> exact absurd hkind (by simp [kind])
      | _ => exact absurd hkind (by simp [kind])

/-- The elements of an array. -/
theorem elements_append_inj : ∀ (values values' : List JsonValue) {x y : List Char},
    ElementsOk values → ElementsOk values' →
    ((elementsText values).toList ++ [']']) ++ x = ((elementsText values').toList ++ [']']) ++ y →
    values = values' ∧ x = y
  | [], [], x, y, _, _, heq => ⟨rfl, List.append_cancel_left heq⟩
  | [], value :: values, x, y, _, h', heq => by
    rw [ElementsOk] at h'
    rw [elementsText_cons, List.append_assoc (jsonText value).toList] at heq
    exact absurd heq.symm (jsonText_ne_bracket h'.1)
  | value :: values, [], x, y, h, _, heq => by
    rw [ElementsOk] at h
    rw [elementsText_cons, List.append_assoc] at heq
    exact absurd heq (jsonText_ne_bracket h.1)
  | value :: values, value' :: values', x, y, h, h', heq => by
    rw [ElementsOk] at h h'
    rw [elementsText_cons, elementsText_cons, List.append_assoc, List.append_assoc] at heq
    obtain ⟨rfl, htail⟩ := jsonText_append_inj value value' h.1 h'.1
      (endsNumber_elementsTail values x) (endsNumber_elementsTail values' y) heq
    obtain ⟨rfl, hxy⟩ := elementsTail_append_inj values values' h.2 h'.2 htail
    exact ⟨rfl, hxy⟩

/-- The elements after the first one. -/
theorem elementsTail_append_inj : ∀ (values values' : List JsonValue) {x y : List Char},
    ElementsOk values → ElementsOk values' →
    elementsTail values ++ x = elementsTail values' ++ y → values = values' ∧ x = y
  | [], [], x, y, _, _, heq => ⟨rfl, List.append_cancel_left heq⟩
  | [], value :: values, x, y, _, _, heq => absurd (List.cons.inj heq).1 (by decide)
  | value :: values, [], x, y, _, _, heq => absurd (List.cons.inj heq).1 (by decide)
  | value :: values, value' :: values', x, y, h, h', heq => by
    rw [ElementsOk] at h h'
    rw [elementsTail, elementsTail, List.cons_append, List.cons_append, List.append_assoc,
      List.append_assoc] at heq
    obtain ⟨rfl, htail⟩ := jsonText_append_inj value value' h.1 h'.1
      (endsNumber_elementsTail values x) (endsNumber_elementsTail values' y) (List.cons.inj heq).2
    obtain ⟨rfl, hxy⟩ := elementsTail_append_inj values values' h.2 h'.2 htail
    exact ⟨rfl, hxy⟩

/-- The members of an object. -/
theorem fields_append_inj : ∀ (fields fields' : List (String × JsonValue)) {x y : List Char},
    FieldsOk fields → FieldsOk fields' →
    ((fieldsText fields).toList ++ ['\x7d']) ++ x = ((fieldsText fields').toList ++ ['\x7d']) ++ y →
    fields = fields' ∧ x = y
  | [], [], x, y, _, _, heq => ⟨rfl, List.append_cancel_left heq⟩
  | [], (key, value) :: fields, x, y, _, _, heq => by
    rw [fieldsText_cons, quoteJson_toList] at heq
    exact absurd (List.cons.inj heq).1 (by decide)
  | (key, value) :: fields, [], x, y, _, _, heq => by
    rw [fieldsText_cons, quoteJson_toList] at heq
    exact absurd (List.cons.inj heq).1 (by decide)
  | (key, value) :: fields, (key', value') :: fields', x, y, h, h', heq => by
    rw [FieldsOk] at h h'
    rw [fieldsText_cons, fieldsText_cons, List.append_assoc, List.append_assoc] at heq
    obtain ⟨rfl, hcolon⟩ := quoteJson_append_inj heq
    rw [List.cons_append, List.cons_append, List.append_assoc, List.append_assoc] at hcolon
    obtain ⟨rfl, htail⟩ := jsonText_append_inj value value' h.1 h'.1
      (endsNumber_fieldsTail fields x) (endsNumber_fieldsTail fields' y) (List.cons.inj hcolon).2
    obtain ⟨rfl, hxy⟩ := fieldsTail_append_inj fields fields' h.2 h'.2 htail
    exact ⟨rfl, hxy⟩

/-- The members after the first one. -/
theorem fieldsTail_append_inj : ∀ (fields fields' : List (String × JsonValue)) {x y : List Char},
    FieldsOk fields → FieldsOk fields' →
    fieldsTail fields ++ x = fieldsTail fields' ++ y → fields = fields' ∧ x = y
  | [], [], x, y, _, _, heq => ⟨rfl, List.append_cancel_left heq⟩
  | [], (key, value) :: fields, x, y, _, _, heq => absurd (List.cons.inj heq).1 (by decide)
  | (key, value) :: fields, [], x, y, _, _, heq => absurd (List.cons.inj heq).1 (by decide)
  | (key, value) :: fields, (key', value') :: fields', x, y, h, h', heq => by
    rw [FieldsOk] at h h'
    rw [fieldsTail, fieldsTail, List.cons_append, List.cons_append, List.append_assoc,
      List.append_assoc] at heq
    obtain ⟨rfl, hcolon⟩ := quoteJson_append_inj (List.cons.inj heq).2
    rw [List.cons_append, List.cons_append, List.append_assoc, List.append_assoc] at hcolon
    obtain ⟨rfl, htail⟩ := jsonText_append_inj value value' h.1 h'.1
      (endsNumber_fieldsTail fields x) (endsNumber_fieldsTail fields' y) (List.cons.inj hcolon).2
    obtain ⟨rfl, hxy⟩ := fieldsTail_append_inj fields fields' h.2 h'.2 htail
    exact ⟨rfl, hxy⟩

end

/-- A whole text determines the value. -/
theorem jsonText_inj {v v' : JsonValue} (h : NumbersOk v) (h' : NumbersOk v')
    (heq : jsonText v = jsonText v') : v = v' := by
  have hnil : EndsNumber [] := by
    intro c hc
    cases hc
  have hlist : (jsonText v).toList ++ [] = (jsonText v').toList ++ [] := by rw [heq]
  exact (jsonText_append_inj v v' h h' hnil hnil hlist).1

theorem elementsOk_iff {values : List JsonValue} :
    ElementsOk values ↔ ∀ value ∈ values, NumbersOk value := by
  induction values with
  | nil => simp [ElementsOk]
  | cons value values ih => simp [ElementsOk, ih]

theorem fieldsOk_iff {fields : List (String × JsonValue)} :
    FieldsOk fields ↔ ∀ field ∈ fields, NumbersOk field.2 := by
  induction fields with
  | nil => simp [FieldsOk]
  | cons field fields ih => simp [FieldsOk, ih]

theorem fieldsOk_append {fields fields' : List (String × JsonValue)} :
    FieldsOk (fields ++ fields') ↔ FieldsOk fields ∧ FieldsOk fields' := by
  rw [fieldsOk_iff, fieldsOk_iff, fieldsOk_iff]
  exact List.forall_mem_append

end Inj

end Solvela.Protocol
