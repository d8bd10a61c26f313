import Mathlib.Data.String.Basic
import Solvela.Lib.SortedMap
import Solvela.Signer.ChannelWire

/-!
# JSON documents

What a JSON text denotes: an object is a map, so that of several members with one key the last one
counts and the order of keys is forgotten. The numbers are of any type `N`. With the texts they are
written back as they make a `serde_json::Value`; with rational numbers, the denotation of a text.

`docOf_toJson` says that a document is read back from the text it is written as.
-/

namespace Solvela.Protocol

open Solvela.Lib.SortedMap (insertEntry mapValues Sorted insertEntry_of_lt mapValues_insertEntry
  mapValues_inj)
open Solvela.Signer (JsonValue)

/-- A JSON document. The entries of an object are sorted by their keys. -/
inductive Doc (N : Type)
  | null
  | bool (b : Bool)
  | num (n : N)
  | str (s : String)
  | arr (values : List (Doc N))
  | obj (entries : List (String × Doc N))

section Reading

variable {N : Type} (number : String → N)

mutual

/-- The document of a JSON value. -/
def docOf : JsonValue → Doc N
  | .null => .null
  | .bool b => .bool b
  | .num token => .num (number token)
  | .str s => .str s
  | .arr values => .arr (elementsDoc values)
  | .obj fields => .obj (entriesInto [] fields)

def elementsDoc : List JsonValue → List (Doc N)
  | [] => []
  | value :: values => docOf value :: elementsDoc values

/-- The members of an object, inserted one after another. -/
def entriesInto (entries : List (String × Doc N)) : List (String × JsonValue) →
    List (String × Doc N)
  | [] => entries
  | (key, value) :: fields => entriesInto (insertEntry key (docOf value) entries) fields

end

end Reading

namespace Doc

section Map

variable {N M : Type} (f : N → M)

mutual

/-- Other numbers in the same document. -/
def map : Doc N → Doc M
  | .null => .null
  | .bool b => .bool b
  | .num n => .num (f n)
  | .str s => .str s
  | .arr values => .arr (elementsMap values)
  | .obj entries => .obj (entriesMap entries)

def elementsMap : List (Doc N) → List (Doc M)
  | [] => []
  | d :: values => map d :: elementsMap values

def entriesMap : List (String × Doc N) → List (String × Doc M)
  | [] => []
  | (key, d) :: entries => (key, map d) :: entriesMap entries

end

end Map

mutual

/-- The numbers of a document. -/
def numbers {N : Type} : Doc N → List N
  | .num n => [n]
  | .arr values => elementsNumbers values
  | .obj entries => entriesNumbers entries
  | _ => []

def elementsNumbers {N : Type} : List (Doc N) → List N
  | [] => []
  | d :: values => numbers d ++ elementsNumbers values

def entriesNumbers {N : Type} : List (String × Doc N) → List N
  | [] => []
  | (_, d) :: entries => numbers d ++ entriesNumbers entries

end

mutual

/-- The JSON value that a document is written as. -/
def toJson : Doc String → JsonValue
  | .null => .null
  | .bool b => .bool b
  | .num token => .num token
  | .str s => .str s
  | .arr values => .arr (elementsJson values)
  | .obj entries => .obj (entriesJson entries)

def elementsJson : List (Doc String) → List JsonValue
  | [] => []
  | d :: values => toJson d :: elementsJson values

def entriesJson : List (String × Doc String) → List (String × JsonValue)
  | [] => []
  | (key, d) :: entries => (key, toJson d) :: entriesJson entries

end

mutual

/-- Every object of the document is sorted. -/
def Canonical {N : Type} : Doc N → Prop
  | .arr values => ElementsCanonical values
  | .obj entries => Sorted entries ∧ EntriesCanonical entries
  | _ => True

def ElementsCanonical {N : Type} : List (Doc N) → Prop
  | [] => True
  | d :: values => Canonical d ∧ ElementsCanonical values

def EntriesCanonical {N : Type} : List (String × Doc N) → Prop
  | [] => True
  | (_, d) :: entries => Canonical d ∧ EntriesCanonical entries

end

/-! ## Members and elements -/

theorem entriesMap_eq {N M : Type} (f : N → M) (entries : List (String × Doc N)) :
    entriesMap f entries = mapValues (map f) entries := by
  induction entries with
  | nil => rfl
  | cons e entries ih =>
    show (e.1, map f e.2) :: entriesMap f entries = _
    rw [ih]
    rfl

theorem entriesJson_eq (entries : List (String × Doc String)) :
    entriesJson entries = mapValues toJson entries := by
  induction entries with
  | nil => rfl
  | cons e entries ih =>
    show (e.1, toJson e.2) :: entriesJson entries = _
    rw [ih]
    rfl

theorem entriesCanonical_iff {N : Type} {entries : List (String × Doc N)} :
    EntriesCanonical entries ↔ ∀ e ∈ entries, e.2.Canonical := by
  induction entries with
  | nil => simp [EntriesCanonical]
  | cons e entries ih =>
    rw [List.forall_mem_cons, ← ih]
    exact Iff.rfl

theorem mem_entriesNumbers {N : Type} {n : N} {entries : List (String × Doc N)} :
    n ∈ entriesNumbers entries ↔ ∃ e ∈ entries, n ∈ e.2.numbers := by
  induction entries with
  | nil => simp [entriesNumbers]
  | cons e entries ih =>
    show n ∈ e.2.numbers ++ entriesNumbers entries ↔ _
    rw [List.mem_append, ih]
    simp only [List.mem_cons, exists_eq_or_imp]

/-! ## Mapping -/

mutual

/-- Two ways to map the numbers agree on a document exactly when they do on its numbers. -/
theorem map_inj_iff {N M : Type} {f g : N → M} : ∀ d : Doc N,
    d.map f = d.map g ↔ ∀ n ∈ d.numbers, f n = g n
  | .null => by simp [map, numbers]
  | .bool b => by simp [map, numbers]
  | .num n => by simp [map, numbers]
  | .str s => by simp [map, numbers]
  | .arr values => by
    rw [map, map, Doc.arr.injEq, numbers]
    exact elementsMap_inj_iff values
  | .obj entries => by
    rw [map, map, Doc.obj.injEq, numbers]
    exact entriesMap_inj_iff entries

theorem elementsMap_inj_iff {N M : Type} {f g : N → M} : ∀ values : List (Doc N),
    elementsMap f values = elementsMap g values ↔ ∀ n ∈ elementsNumbers values, f n = g n
  | [] => by simp [elementsMap, elementsNumbers]
  | d :: values => by
    rw [elementsMap, elementsMap, List.cons.injEq, elementsNumbers, List.forall_mem_append,
      map_inj_iff d, elementsMap_inj_iff values]

theorem entriesMap_inj_iff {N M : Type} {f g : N → M} : ∀ entries : List (String × Doc N),
    entriesMap f entries = entriesMap g entries ↔ ∀ n ∈ entriesNumbers entries, f n = g n
  | [] => by simp [entriesMap, entriesNumbers]
  | (key, d) :: entries => by
    rw [entriesMap, entriesMap, List.cons.injEq, Prod.mk.injEq, entriesNumbers,
      List.forall_mem_append, map_inj_iff d, entriesMap_inj_iff entries, eq_self, true_and]

end

end Doc

/-! ## Reading -/

section

variable {N M : Type} (number : String → N)

mutual

/-- Mapping the numbers of a document is reading them otherwise. -/
theorem map_docOf (f : N → M) : ∀ value : JsonValue,
    (docOf number value).map f = docOf (fun token => f (number token)) value
  | .null => rfl
  | .bool _ => rfl
  | .num _ => rfl
  | .str _ => rfl
  | .arr values => congrArg Doc.arr (map_elementsDoc f values)
  | .obj fields => congrArg Doc.obj (map_entriesInto f [] fields)

theorem map_elementsDoc (f : N → M) : ∀ values : List JsonValue,
    Doc.elementsMap f (elementsDoc number values) =
      elementsDoc (fun token => f (number token)) values
  | [] => rfl
  | value :: values => by
    rw [elementsDoc, elementsDoc, Doc.elementsMap, map_docOf f value, map_elementsDoc f values]

theorem map_entriesInto (f : N → M) (entries : List (String × Doc N)) :
    ∀ fields : List (String × JsonValue),
      Doc.entriesMap f (entriesInto number entries fields) =
        entriesInto (fun token => f (number token)) (Doc.entriesMap f entries) fields
  | [] => rfl
  | (key, value) :: fields => by
    rw [entriesInto, entriesInto, map_entriesInto f _ fields, Doc.entriesMap_eq,
      Doc.entriesMap_eq, mapValues_insertEntry, map_docOf f value]

end

mutual

theorem canonical_docOf : ∀ value : JsonValue, (docOf number value).Canonical
  | .null => trivial
  | .bool _ => trivial
  | .num _ => trivial
  | .str _ => trivial
  | .arr values => canonical_elementsDoc values
  | .obj fields => canonical_entriesInto [] List.Pairwise.nil trivial fields

theorem canonical_elementsDoc : ∀ values : List JsonValue,
    Doc.ElementsCanonical (elementsDoc number values)
  | [] => trivial
  | value :: values => ⟨canonical_docOf value, canonical_elementsDoc values⟩

theorem canonical_entriesInto (entries : List (String × Doc N)) (hsorted : Sorted entries)
    (hcanonical : Doc.EntriesCanonical entries) : ∀ fields : List (String × JsonValue),
      (Doc.obj (entriesInto number entries fields)).Canonical
  | [] => ⟨hsorted, hcanonical⟩
  | (key, value) :: fields => by
    apply canonical_entriesInto _ (hsorted.insertEntry key _) _ fields
    rw [Doc.entriesCanonical_iff] at hcanonical ⊢
    intro e he
    rcases Lib.SortedMap.mem_insertEntry he with rfl | he
    · exact canonical_docOf value
    · exact hcanonical e he

end

end

/-- An entry of the object that members are inserted into was there or is a member's. -/
theorem mem_entriesInto {N : Type} {number : String → N} {e : String × Doc N} :
    ∀ {fields : List (String × JsonValue)} {entries : List (String × Doc N)},
      e ∈ entriesInto number entries fields →
        e ∈ entries ∨ ∃ field ∈ fields, e = (field.1, docOf number field.2)
  | [], _, h => Or.inl h
  | (key, value) :: fields, entries, h => by
    have hrest : e ∈ entriesInto number (insertEntry key (docOf number value) entries) fields := h
    rcases mem_entriesInto hrest with h | ⟨field, hfield, h⟩
    · rcases Lib.SortedMap.mem_insertEntry h with rfl | h
      · exact Or.inr ⟨(key, value), List.mem_cons_self, rfl⟩
      · exact Or.inl h
    · exact Or.inr ⟨field, List.mem_cons_of_mem _ hfield, h⟩

/-- Induction over a JSON value: what the elements and the members have, the value has. -/
theorem json_induction {P : JsonValue → Prop} (null : P .null) (bool : ∀ b, P (.bool b))
    (num : ∀ token, P (.num token)) (str : ∀ s, P (.str s))
    (arr : ∀ values, (∀ value ∈ values, P value) → P (.arr values))
    (obj : ∀ fields : List (String × JsonValue), (∀ field ∈ fields, P field.2) → P (.obj fields))
    (value : JsonValue) : P value :=
  @JsonValue.rec P (fun values => ∀ value ∈ values, P value)
    (fun fields => ∀ field ∈ fields, P field.2) (fun field => P field.2) null bool num str arr obj
    (List.forall_mem_nil _) (fun _ _ hfirst hrest => List.forall_mem_cons.mpr ⟨hfirst, hrest⟩)
    (List.forall_mem_nil _) (fun _ _ hfirst hrest => List.forall_mem_cons.mpr ⟨hfirst, hrest⟩)
    (fun _ _ h => h) value

section

variable {N : Type} (number : String → N)

mutual

/-- What a document is written as denotes the document. -/
theorem docOf_toJson : ∀ d : Doc String, d.Canonical → docOf number d.toJson = d.map number
  | .null, _ => rfl
  | .bool _, _ => rfl
  | .num _, _ => rfl
  | .str _, _ => rfl
  | .arr values, h => congrArg Doc.arr (elementsDoc_elementsJson values h)
  | .obj entries, h => by
    have hentries := entriesInto_entriesJson [] entries h.1 h.2 fun e he => nomatch he
    exact congrArg Doc.obj hentries

theorem elementsDoc_elementsJson : ∀ values : List (Doc String), Doc.ElementsCanonical values →
    elementsDoc number (Doc.elementsJson values) = Doc.elementsMap number values
  | [], _ => rfl
  | d :: values, h => by
    rw [Doc.elementsJson, elementsDoc, Doc.elementsMap, docOf_toJson d h.1,
      elementsDoc_elementsJson values h.2]

/-- Behind smaller keys the entries of a sorted object are appended. -/
theorem entriesInto_entriesJson (before : List (String × Doc N)) :
    ∀ entries : List (String × Doc String), Sorted entries → Doc.EntriesCanonical entries →
      (∀ e ∈ before, ∀ e' ∈ entries, e.1 < e'.1) →
        entriesInto number before (Doc.entriesJson entries) =
          before ++ Doc.entriesMap number entries
  | [], _, _, _ => (List.append_nil before).symm
  | (key, d) :: entries, hsorted, hcanonical, hbefore => by
    have hlt : ∀ e ∈ before, e.1 < key := fun e he => hbefore e he (key, d) List.mem_cons_self
    have hnext : ∀ e ∈ before ++ [(key, docOf number d.toJson)], ∀ e' ∈ entries, e.1 < e'.1 := by
      intro e he e' he'
      rcases List.mem_append.mp he with he | he
      · exact hbefore e he e' (List.mem_cons_of_mem _ he')
      · rw [List.mem_singleton.mp he]
        exact (List.pairwise_cons.mp hsorted).1 e' he'
    rw [Doc.entriesJson, entriesInto, insertEntry_of_lt hlt,
      entriesInto_entriesJson _ entries (List.pairwise_cons.mp hsorted).2 hcanonical.2 hnext,
      Doc.entriesMap, docOf_toJson d hcanonical.1, List.append_assoc]
    rfl

end

end

end Solvela.Protocol
