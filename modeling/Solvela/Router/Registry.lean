import Solvela.Channel.Pricing
import Solvela.Lib.Table

/-!
# Loading the model registry

`ModelRegistry::from_toml` walks a hash map, in whatever order it comes, and files each entry under
its TOML key and under its `provider/model_id`. The second is checked against what is already
there; the first is not.

An entry *claims* both names. A name resolves to the last entry that claims it.

* `register_spec` and `register_loop`, filing one entry and all;
* `validate_spec` and `fromToml_spec`, the registry of one order;
* `claimsMatch_of_namesAgree`, entries whose names agree meet their own prices.
-/

namespace Solvela.Router

open Solvela.Lib
open Solvela.Channel (Price)

/-! ## The configuration -/

/-- The fields of `ModelEntry` that loading and pricing read. -/
structure ModelEntry where
  provider : String
  modelId : String
  inputCostPerMillion : Price
  outputCostPerMillion : Price
  contextWindow : ℕ
  maxOutputTokens : Option ℕ
deriving DecidableEq

/-- `ModelsConfig`: the entries under their TOML keys, in the order the hash map hands them out. -/
structure ModelsConfig where
  models : List (String × ModelEntry)
  nodup : (models.map Prod.fst).Nodup

/-- The same TOML, iterated in another order. -/
def SameTable (c c' : ModelsConfig) : Prop := c'.models.Perm c.models

/-- `ModelRegistration`. -/
structure ModelRegistration extends Channel.ModelRegistration where
  id : String
  provider : String
  modelId : String

/-- `ModelRegistryError`; a parse error keeps what its text says. -/
inductive ModelRegistryError
  | notFound (modelId : String)
  | inputCost (key : String) (price : Price)
  | outputCost (key : String) (price : Price)
  | conflictingPricing (id key : String) (info existing : Price × Price)

/-- `ModelRegistry`. -/
abbrev ModelRegistry := Table String ModelRegistration

/-- The canonical `provider/model_id`. -/
def ModelEntry.id (entry : ModelEntry) : String := entry.provider ++ "/" ++ entry.modelId

/-- The two prices. -/
def ModelEntry.prices (entry : ModelEntry) : Price × Price :=
  (entry.inputCostPerMillion, entry.outputCostPerMillion)

/-- The two prices. -/
def ModelRegistration.prices (info : ModelRegistration) : Price × Price :=
  (info.inputCostPerMillion, info.outputCostPerMillion)

/-- The registration of an entry. -/
def ModelEntry.info (entry : ModelEntry) : ModelRegistration where
  inputCostPerMillion := entry.inputCostPerMillion
  outputCostPerMillion := entry.outputCostPerMillion
  contextWindow := entry.contextWindow
  maxOutputTokens := entry.maxOutputTokens
  id := entry.id
  provider := entry.provider
  modelId := entry.modelId

/-! ## Loading -/

/-- Not finite, or negative. -/
def badPrice : Price → Bool
  | none => true
  | some p => decide (p < 0)

/-- The validation pass on one entry. -/
def validateEntry (e : String × ModelEntry) : Except ModelRegistryError Unit :=
  if badPrice e.2.inputCostPerMillion then .error (.inputCost e.1 e.2.inputCostPerMillion)
  else if badPrice e.2.outputCostPerMillion then .error (.outputCost e.1 e.2.outputCostPerMillion)
  else .ok ()

/-- `f64::EPSILON`. -/
def f64Epsilon : ℚ := 1 / 2 ^ 52

/-- `(a - b).abs() < f64::EPSILON`. The difference is rounded to the nearest double first, so from
half a unit below `EPSILON` on it counts as `EPSILON`. -/
def withinEpsilon : Price → Price → Bool
  | some a, some b => decide (|a - b| < f64Epsilon * (1 - 1 / 2 ^ 54))
  | _, _ => false

/-- `pricing_matches`. -/
def pricingMatches (existing info : Price × Price) : Bool :=
  withinEpsilon existing.1 info.1 && withinEpsilon existing.2 info.2

/-- The body of the loop: check the canonical key, then file the entry under both names. -/
def register (models : ModelRegistry) (e : String × ModelEntry) :
    Except ModelRegistryError ModelRegistry :=
  let id := e.2.id
  let info := e.2.info
  match models.lookup id with
  | some existing =>
    if pricingMatches existing.prices info.prices then .ok ((models.insert e.1 info).insert id info)
    else .error (.conflictingPricing id e.1 info.prices existing.prices)
  | none => .ok ((models.insert e.1 info).insert id info)

/-- `ModelRegistry::from_toml`, from the parsed table on. -/
def fromToml (config : ModelsConfig) : Except ModelRegistryError ModelRegistry := do
  config.models.forM validateEntry
  config.models.foldlM register ∅

/-! ## Claimants -/

/-- The entry is filed under the name. -/
def claims (name : String) (e : String × ModelEntry) : Bool := e.1 == name || e.2.id == name

/-- The last of some entries that claims a name. -/
def lastClaimant (name : String) (es : List (String × ModelEntry)) :
    Option (String × ModelEntry) :=
  es.reverse.find? (claims name)

/-- After the entries `seen`, each of the others meets, as the last claimant of its canonical id,
an entry with matching prices. -/
def ClaimsMatch (seen : List (String × ModelEntry)) : List (String × ModelEntry) → Prop
  | [] => True
  | e :: es =>
    (∀ e', lastClaimant e.2.id seen = some e' → pricingMatches e'.2.prices e.2.prices = true) ∧
      ClaimsMatch (seen ++ [e]) es

/-- Both prices pass the validation. -/
def ModelEntry.Valid (entry : ModelEntry) : Prop :=
  badPrice entry.inputCostPerMillion = false ∧ badPrice entry.outputCostPerMillion = false

/-- Entries that claim a name together have the same prices. -/
def NamesAgree (es : List (String × ModelEntry)) : Prop :=
  ∀ name, ∀ e ∈ es, ∀ e' ∈ es, claims name e = true → claims name e' = true →
    e.2.prices = e'.2.prices

@[simp] theorem prices_info (entry : ModelEntry) : entry.info.prices = entry.prices := rfl

theorem lastClaimant_concat (name : String) (es : List (String × ModelEntry))
    (e : String × ModelEntry) :
    lastClaimant name (es ++ [e]) = if claims name e then some e else lastClaimant name es := by
  unfold lastClaimant
  rw [List.reverse_append, List.reverse_singleton, List.singleton_append, List.find?_cons]
  cases claims name e with
  | true => rfl
  | false => rfl

theorem lastClaimant_some {name : String} {es : List (String × ModelEntry)}
    {e : String × ModelEntry} (h : lastClaimant name es = some e) :
    e ∈ es ∧ claims name e = true := by
  have hmem := List.mem_of_find?_eq_some h
  rw [List.mem_reverse] at hmem
  have hclaims : claims name e = true := List.find?_some h
  exact ⟨hmem, hclaims⟩

theorem lastClaimant_isSome {name : String} {es : List (String × ModelEntry)}
    {e : String × ModelEntry} (he : e ∈ es) (hclaims : claims name e = true) :
    ∃ e', lastClaimant name es = some e' := by
  apply Option.isSome_iff_exists.mp
  rw [lastClaimant, List.find?_isSome]
  exact ⟨e, List.mem_reverse.mpr he, hclaims⟩

/-! ## What loading does -/

/-- Every name resolves to its last claimant. -/
def Loaded (es : List (String × ModelEntry)) (models : ModelRegistry) : Prop :=
  ∀ name, models.lookup name = (lastClaimant name es).map fun e => e.2.info

theorem loaded_empty : Loaded [] ∅ := by
  intro name
  rfl

/-- Filing an entry under both its names. -/
theorem Loaded.insert {es : List (String × ModelEntry)} {models : ModelRegistry}
    (h : Loaded es models) (e : String × ModelEntry) :
    Loaded (es ++ [e]) ((models.insert e.1 e.2.info).insert e.2.id e.2.info) := by
  intro name
  rw [lastClaimant_concat, Table.lookup_insert_eq, Table.lookup_insert_eq, h name]
  by_cases hid : name = e.2.id
  · have hclaims : claims name e = true := by simp [claims, hid]
    rw [if_pos hid, if_pos hclaims, Option.map_some]
  · by_cases hkey : name = e.1
    · have hclaims : claims name e = true := by simp [claims, hkey]
      rw [if_neg hid, if_pos hkey, if_pos hclaims, Option.map_some]
    · have hclaims : ¬ claims name e = true := by
        simp [claims, Ne.symm hid, Ne.symm hkey]
      rw [if_neg hid, if_neg hkey, if_neg hclaims]

/-- One entry: it is filed if the last claimant of its canonical id, if any, matches. -/
theorem register_spec {es : List (String × ModelEntry)} {models : ModelRegistry}
    (h : Loaded es models) (e : String × ModelEntry) :
    ((∀ e', lastClaimant e.2.id es = some e' → pricingMatches e'.2.prices e.2.prices = true) ∧
      register models e = .ok ((models.insert e.1 e.2.info).insert e.2.id e.2.info)) ∨
    (¬ (∀ e', lastClaimant e.2.id es = some e' → pricingMatches e'.2.prices e.2.prices = true) ∧
      ∃ error, register models e = .error error) := by
  have hlookup := h e.2.id
  unfold register
  dsimp only
  rw [hlookup]
  cases hlast : lastClaimant e.2.id es with
  | none =>
    left
    refine ⟨?_, rfl⟩
    intro e' he'
    exact absurd he' (by simp)
  | some e' =>
    simp only [Option.map_some, prices_info]
    by_cases hmatch : pricingMatches e'.2.prices e.2.prices = true
    · left
      refine ⟨?_, if_pos hmatch⟩
      intro e'' he''
      rw [← Option.some.inj he'']
      exact hmatch
    · right
      refine ⟨?_, _, if_neg hmatch⟩
      intro hall
      exact hmatch (hall e' rfl)

/-- The loop goes through exactly if every entry meets matching prices, and then every name
resolves to its last claimant. -/
theorem register_loop (es : List (String × ModelEntry)) :
    ∀ (seen : List (String × ModelEntry)) (models : ModelRegistry), Loaded seen models →
      (ClaimsMatch seen es ∧
        ∃ models', es.foldlM register models = .ok models' ∧ Loaded (seen ++ es) models') ∨
      (¬ ClaimsMatch seen es ∧ ∃ error, es.foldlM register models = .error error) := by
  induction es with
  | nil =>
    intro seen models h
    left
    rw [List.append_nil]
    exact ⟨trivial, models, rfl, h⟩
  | cons e es ih =>
    intro seen models h
    rcases register_spec h e with ⟨hmatch, hok⟩ | ⟨hmatch, error, herror⟩
    · have hrest := ih (seen ++ [e]) _ (h.insert e)
      rw [List.append_assoc, List.singleton_append] at hrest
      rw [List.foldlM_cons, hok]
      rcases hrest with ⟨hclaims, hloaded⟩ | ⟨hclaims, herror⟩
      · exact Or.inl ⟨⟨hmatch, hclaims⟩, hloaded⟩
      · right
        refine ⟨?_, herror⟩
        intro hall
        exact hclaims hall.2
    · right
      rw [List.foldlM_cons, herror]
      refine ⟨?_, error, rfl⟩
      intro hall
      exact hmatch hall.1

theorem validateEntry_ok_iff (e : String × ModelEntry) :
    validateEntry e = .ok () ↔ e.2.Valid := by
  unfold validateEntry ModelEntry.Valid
  cases badPrice e.2.inputCostPerMillion with
  | true => simp
  | false =>
    cases badPrice e.2.outputCostPerMillion with
    | true => simp
    | false => simp

/-- The validation pass goes through exactly if every entry is valid. -/
theorem validate_spec (es : List (String × ModelEntry)) :
    ((∀ e ∈ es, e.2.Valid) ∧ es.forM validateEntry = .ok ()) ∨
      ((∃ e ∈ es, ¬ e.2.Valid) ∧ ∃ error, es.forM validateEntry = .error error) := by
  induction es with
  | nil =>
    left
    refine ⟨?_, rfl⟩
    intro e he
    exact absurd he (by simp)
  | cons e es ih =>
    have hcons : (e :: es).forM validateEntry =
        validateEntry e >>= fun _ => es.forM validateEntry := rfl
    rw [hcons]
    cases hvalid : validateEntry e with
    -- the first entry that is refused ends the loop
    | error error =>
      right
      refine ⟨⟨e, List.mem_cons_self, ?_⟩, error, rfl⟩
      intro h
      rw [(validateEntry_ok_iff e).mpr h] at hvalid
      exact absurd hvalid (by simp)
    | ok u =>
      have hhead := (validateEntry_ok_iff e).mp hvalid
      rcases ih with ⟨hall, hok⟩ | ⟨⟨e', he', hbad⟩, herror⟩
      · left
        refine ⟨?_, hok⟩
        intro e' he'
        rcases List.mem_cons.mp he' with heq | htail
        · rw [heq]
          exact hhead
        · exact hall e' htail
      · right
        exact ⟨⟨e', List.mem_cons_of_mem e he', hbad⟩, herror⟩

/-- Loading succeeds exactly on valid entries that meet matching prices. -/
theorem fromToml_spec (c : ModelsConfig) :
    (((∀ e ∈ c.models, e.2.Valid) ∧ ClaimsMatch [] c.models) ∧
      ∃ models, fromToml c = .ok models ∧ Loaded c.models models) ∨
    (¬ ((∀ e ∈ c.models, e.2.Valid) ∧ ClaimsMatch [] c.models) ∧
      ∃ error, fromToml c = .error error) := by
  unfold fromToml
  rcases validate_spec c.models with ⟨hvalid, hok⟩ | ⟨⟨e, he, hbad⟩, error, herror⟩
  · rw [hok]
    rcases register_loop c.models [] ∅ loaded_empty with ⟨hclaims, hloaded⟩ | ⟨hclaims, herror⟩
    · exact Or.inl ⟨⟨hvalid, hclaims⟩, hloaded⟩
    · right
      refine ⟨?_, herror⟩
      intro hall
      exact hclaims hall.2
  · right
    rw [herror]
    refine ⟨?_, error, rfl⟩
    intro hall
    exact hbad (hall.1 e he)

/-! ## Order -/

/-- The verdict, the prices of every lookup key and those of the entries' own keys do not depend on
the order of the table. -/
structure OrderIndependent (c : ModelsConfig) : Prop where
  verdict : ∀ c', SameTable c c' →
    ((∃ models, fromToml c = .ok models) ↔ ∃ models, fromToml c' = .ok models)
  lookups : ∀ c' models models', SameTable c c' → fromToml c = .ok models →
    fromToml c' = .ok models' → ∀ name,
      (models.lookup name).map (·.prices) = (models'.lookup name).map (·.prices)
  own : ∀ models, fromToml c = .ok models → ∀ e ∈ c.models,
    (models.lookup e.1).map (·.prices) = some e.2.prices

/-- A table that every order rejects. -/
theorem OrderIndependent.of_rejected {c : ModelsConfig}
    (h : ∀ c', SameTable c c' → ¬ ∃ models, fromToml c' = .ok models) : OrderIndependent c := by
  have hself : ¬ ∃ models, fromToml c = .ok models := h c (List.Perm.refl _)
  constructor
  · intro c' hsame
    constructor
    · intro hok
      exact absurd hok hself
    · intro hok
      exact absurd hok (h c' hsame)
  · intro c' models models' _ hmodels
    exact absurd ⟨models, hmodels⟩ hself
  · intro models hmodels
    exact absurd ⟨models, hmodels⟩ hself

theorem fromToml_ok {c : ModelsConfig} {models : ModelRegistry} (h : fromToml c = .ok models) :
    (∀ e ∈ c.models, e.2.Valid) ∧ ClaimsMatch [] c.models ∧ Loaded c.models models := by
  rcases fromToml_spec c with ⟨hgood, models', hok, hloaded⟩ | ⟨_, error, herror⟩
  · rw [hok] at h
    rw [← Except.ok.inj h]
    exact ⟨hgood.1, hgood.2, hloaded⟩
  · rw [herror] at h
    exact absurd h (by simp)

theorem fromToml_ok_iff (c : ModelsConfig) :
    (∃ models, fromToml c = .ok models) ↔
      (∀ e ∈ c.models, e.2.Valid) ∧ ClaimsMatch [] c.models := by
  constructor
  · rintro ⟨models, h⟩
    have hspec := fromToml_ok h
    exact ⟨hspec.1, hspec.2.1⟩
  · intro hgood
    rcases fromToml_spec c with ⟨_, models, hok, _⟩ | ⟨hbad, _⟩
    · exact ⟨models, hok⟩
    · exact absurd hgood hbad

theorem Loaded.prices {es : List (String × ModelEntry)} {models : ModelRegistry}
    (h : Loaded es models) (name : String) :
    (models.lookup name).map (·.prices) = (lastClaimant name es).map fun e => e.2.prices := by
  rw [h name, Option.map_map]
  rfl

theorem withinEpsilon_self {p : Price} (h : badPrice p = false) : withinEpsilon p p = true := by
  cases p with
  | none => exact absurd h (by simp [badPrice])
  | some a =>
    have hpos : (0 : ℚ) < f64Epsilon * (1 - 1 / 2 ^ 54) := by
      unfold f64Epsilon
      norm_num
    simpa [withinEpsilon] using hpos

theorem pricingMatches_self {entry : ModelEntry} (h : entry.Valid) :
    pricingMatches entry.prices entry.prices = true := by
  unfold pricingMatches
  rw [Bool.and_eq_true]
  exact ⟨withinEpsilon_self h.1, withinEpsilon_self h.2⟩

theorem claims_key (e : String × ModelEntry) : claims e.1 e = true := by
  simp [claims]

theorem claims_id (e : String × ModelEntry) : claims e.2.id e = true := by
  simp [claims]

/-- Where names agree, every entry meets its own prices. -/
theorem claimsMatch_of_namesAgree {all : List (String × ModelEntry)}
    (hvalid : ∀ e ∈ all, e.2.Valid) (hagree : NamesAgree all) (es : List (String × ModelEntry)) :
    ∀ seen, (∀ e ∈ seen ++ es, e ∈ all) → ClaimsMatch seen es := by
  induction es with
  | nil =>
    intro seen _
    trivial
  | cons e es ih =>
    intro seen hmem
    have he : e ∈ all := hmem e (by simp)
    constructor
    · intro e' hlast
      have hclaimant := lastClaimant_some hlast
      have he' : e' ∈ all := hmem e' (List.mem_append_left _ hclaimant.1)
      rw [hagree e.2.id e' he' e he hclaimant.2 (claims_id e)]
      exact pricingMatches_self (hvalid e he)
    · apply ih
      intro e' he'
      apply hmem
      simpa using he'

/-- Where names agree, the last claimant has the prices of any claimant. -/
theorem lastClaimant_prices {es es' : List (String × ModelEntry)} (hagree : NamesAgree es)
    (hmem : ∀ e, e ∈ es' ↔ e ∈ es) (name : String) :
    (lastClaimant name es').map (fun e => e.2.prices) =
      (lastClaimant name es).map fun e => e.2.prices := by
  cases hlast : lastClaimant name es with
  | none =>
    cases hlast' : lastClaimant name es' with
    | none => rfl
    | some e' =>
      have hclaimant := lastClaimant_some hlast'
      obtain ⟨e, he⟩ := lastClaimant_isSome ((hmem e').mp hclaimant.1) hclaimant.2
      rw [hlast] at he
      exact absurd he (by simp)
  | some e =>
    have hclaimant := lastClaimant_some hlast
    obtain ⟨e', he'⟩ := lastClaimant_isSome ((hmem e).mpr hclaimant.1) hclaimant.2
    have hclaimant' := lastClaimant_some he'
    rw [he', Option.map_some, Option.map_some]
    congr 1
    exact hagree name e' ((hmem e').mp hclaimant'.1) e hclaimant.1 hclaimant'.2 hclaimant.2

/-- The table with one entry moved to the end. -/
theorem exists_last (c : ModelsConfig) {e : String × ModelEntry} (he : e ∈ c.models) :
    ∃ c' : ModelsConfig, SameTable c c' ∧ ∃ es, c'.models = es ++ [e] := by
  have hperm : (c.models.erase e ++ [e]).Perm c.models := by
    refine (List.perm_append_comm).trans ?_
    exact (List.perm_cons_erase he).symm
  have hnodup : ((c.models.erase e ++ [e]).map Prod.fst).Nodup :=
    (hperm.map Prod.fst).nodup_iff.mpr c.nodup
  exact ⟨⟨_, hnodup⟩, hperm, _, rfl⟩

/-- Loading does not depend on the order exactly if it rejects the table for an invalid price, or
entries that share a name share their prices, or no order whatever gets past the check of the
canonical keys. -/
theorem fromToml_orderIndependent_iff (c : ModelsConfig) :
    OrderIndependent c ↔
      (∃ e ∈ c.models, ¬ e.2.Valid) ∨ NamesAgree c.models ∨
        ∀ c', SameTable c c' → ¬ ClaimsMatch [] c'.models := by
  constructor
  · intro h
    by_contra hnone
    push Not at hnone
    obtain ⟨hvalid, hdisagree, c₀, hsame₀, hmatch₀⟩ := hnone
    -- one order is accepted, so all are
    have hok : ∃ models, fromToml c = .ok models := by
      rw [h.verdict c₀ hsame₀, fromToml_ok_iff]
      refine ⟨?_, hmatch₀⟩
      intro e he
      exact hvalid e (hsame₀.mem_iff.mp he)
    obtain ⟨models, hmodels⟩ := hok
    apply hdisagree
    -- whichever claimant of a name comes last, the name has its prices
    have hlast : ∀ name, ∀ e ∈ c.models, claims name e = true →
        (models.lookup name).map (·.prices) = some e.2.prices := by
      intro name e he hclaims
      obtain ⟨c', hsame, es, hes⟩ := exists_last c he
      obtain ⟨models', hmodels'⟩ := (h.verdict c' hsame).mp ⟨models, hmodels⟩
      rw [h.lookups c' models models' hsame hmodels hmodels' name,
        (fromToml_ok hmodels').2.2.prices, hes, lastClaimant_concat, if_pos hclaims,
        Option.map_some]
    intro name e he e' he' hclaims hclaims'
    have heq := hlast name e he hclaims
    rw [hlast name e' he' hclaims'] at heq
    exact (Option.some.inj heq).symm
  · intro h
    rcases h with ⟨e, he, hbad⟩ | hagree | hnever
    · have hreject : ∀ c', SameTable c c' → ¬ ∃ models, fromToml c' = .ok models := by
        intro c' hsame hok
        rw [fromToml_ok_iff] at hok
        exact hbad (hok.1 e (hsame.mem_iff.mpr he))
      exact .of_rejected hreject
    · constructor
      · intro c' hsame
        have hvalid : (∀ e ∈ c'.models, e.2.Valid) ↔ ∀ e ∈ c.models, e.2.Valid :=
          forall_congr' fun e => imp_congr_left hsame.mem_iff
        rw [fromToml_ok_iff, fromToml_ok_iff, hvalid]
        apply and_congr_right
        intro hall
        have hmatch := claimsMatch_of_namesAgree hall hagree c.models [] (fun e he => he)
        have hmatch' := claimsMatch_of_namesAgree hall hagree c'.models []
          (fun e he => hsame.mem_iff.mp he)
        exact iff_of_true hmatch hmatch'
      · intro c' models models' hsame hmodels hmodels' name
        rw [(fromToml_ok hmodels).2.2.prices, (fromToml_ok hmodels').2.2.prices]
        exact (lastClaimant_prices hagree (fun e => hsame.mem_iff) name).symm
      · intro models hmodels e he
        rw [(fromToml_ok hmodels).2.2.prices]
        obtain ⟨e', he'⟩ := lastClaimant_isSome he (claims_key e)
        have hclaimant := lastClaimant_some he'
        rw [he', Option.map_some]
        congr 1
        exact hagree e.1 e' hclaimant.1 e he hclaimant.2 (claims_key e)
    · have hreject : ∀ c', SameTable c c' → ¬ ∃ models, fromToml c' = .ok models := by
        intro c' hsame hok
        rw [fromToml_ok_iff] at hok
        exact hnever c' hsame hok.2
      exact .of_rejected hreject

/-- An entry under the key `a/b`, and another one whose canonical id is `a/b`. -/
def shadowingKey : String × ModelEntry :=
  ("a/b", ⟨"c", "d", some 1, some 1, 4096, none⟩)

/-- The entry that `shadowingKey` shadows, or is rejected with. -/
def shadowedEntry : String × ModelEntry :=
  ("e", ⟨"a", "b", some 2, some 2, 4096, none⟩)

/-- Rejected in one order, accepted in the other. -/
theorem fromToml_order_matters : ¬ ∀ c, OrderIndependent c := by
  intro h
  have hsame : SameTable ⟨[shadowingKey, shadowedEntry], by decide⟩
      ⟨[shadowedEntry, shadowingKey], by decide⟩ := List.Perm.swap _ _ _
  have hverdict := (h ⟨[shadowingKey, shadowedEntry], by decide⟩).verdict _ hsame
  have hsecond : ∃ models, fromToml ⟨[shadowedEntry, shadowingKey], by decide⟩ = .ok models := by
    rw [fromToml_ok_iff]
    have hfresh : lastClaimant "c/d" [shadowedEntry] = none := by decide
    refine ⟨?_, ?_, ?_, trivial⟩
    · intro e he
      simp only [List.mem_cons, List.not_mem_nil, or_false] at he
      rcases he with heq | heq
      · rw [heq]
        exact ⟨by decide +kernel, by decide +kernel⟩
      · rw [heq]
        exact ⟨by decide +kernel, by decide +kernel⟩
    · intro e he
      exact absurd he (by simp [lastClaimant])
    · intro e he
      have hnone : lastClaimant "c/d" [shadowedEntry] = some e := he
      rw [hfresh] at hnone
      exact absurd hnone (by simp)
  have hfirst := (fromToml_ok_iff _).mp (hverdict.mpr hsecond)
  have hmeets : lastClaimant shadowedEntry.2.id [shadowingKey] = some shadowingKey := by decide
  have hmatch := hfirst.2.2.1 shadowingKey hmeets
  exact absurd hmatch (by decide +kernel)

end Solvela.Router
