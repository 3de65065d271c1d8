import Gamebook.Proofs.Number.Units
import Gamebook.Proofs.Tag.Filing
import Gamebook.Proofs.Tag.Omission

/-!
The stock of items as a ledger. Tags that give the player items and use them up keep the books of
every name that they deal in: what was acquired is added, what is consumed is taken off, and a name
whose balance is down to nothing is forgotten. An item that came without an amount carries no count
and stands for one.
-/

namespace Gamebook

open Attribute
open Play (Gives gives_pure gives_ofOutcome)

variable {c : Scene} {s t : GameState} {name id : String} {b : Int}

/-! ### Wares -/

namespace Entity

/-- An item that the player came by: it has a name, an id and perhaps a count. -/
def ware (name id : String) (count : Option Number) : Entity :=
  { name, kind := .item, referenceId := some id, owner := some "pc", quantities := count }

/-- How many of an item there are. -/
def count (e : Entity) : Number := e.quantities.getD (.int 1)

/-- A ware with a new count is checked like any record, and nothing else about it changes. -/
theorem ware_merged (filled : name ≠ "") (count : Option Number) (total : Int) :
    (ware name id count).merged [("name", .text name), ("quantities", .int total)] =
      .ok (ware name id (some (.int total))) := by
  refine ofFields_eq_ok.mpr ?_
  constructor
  case name => exact Fields.need_eq_ok.mpr ⟨_, rfl, Read.nonEmpty_text filled⟩
  case extras =>
    refine Fields.leftOver_eq_nil ?_
    rw [Keyed.keys_update]
    · exact List.Subset.refl (labels.map (·.short))
    · change ["name", "quantities"] ⊆ labels.map (·.short)
      decide
  all_goals rfl

end Entity

open Entity (ware)

/-! ### Dealings -/

/-- A tag by which the player comes by an item or uses it up. It gives a name without blanks around
it and perhaps a positive amount, in either order. -/
structure Dealing where
  gains : Bool
  name : String
  quantity : Option Int
  attrs : Fields
  trimmed : Text.trim name = name
  positive : ∀ q ∈ quantity, 0 < q
  told : attrs.Perm (("name", .text name) :: (quantity.map fun q => ("quantities", .int q)).toList)

namespace Dealing

def kind (d : Dealing) : TagKind := if d.gains then .itemAcquired else .itemConsumed

/-- An amount that is not told is one. -/
def amount (d : Dealing) : Int := d.quantity.getD 1

/-- What a dealing makes of the balance under a name. Only dealings in that name count, and nothing
goes by the empty name. -/
def settle (d : Dealing) (name : String) (b : Int) : Int :=
  if d.name ≠ name ∨ name = "" then b
  else if d.gains then b + d.amount
  else if d.amount < b then b - d.amount
  else 0

theorem amount_pos (d : Dealing) : 0 < d.amount := by
  rw [amount]
  cases given : d.quantity with
  | none => exact Int.one_pos
  | some q => exact d.positive q given

/-! ### What a dealing tells -/

theorem shape (d : Dealing) :
    d.quantity = none ∧ d.attrs = [("name", .text d.name)] ∨
      ∃ q, d.quantity = some q ∧
        (d.attrs = [("name", .text d.name), ("quantities", .int q)] ∨
          d.attrs = [("quantities", .int q), ("name", .text d.name)]) := by
  have told := d.told
  cases given : d.quantity with
  | none =>
    rw [given] at told
    exact .inl ⟨rfl, List.perm_singleton.mp told⟩
  | some q =>
    rw [given] at told
    exact .inr ⟨q, rfl, List.pair_perm.mp told.symm⟩

theorem get?_name (d : Dealing) : d.attrs.get? "name" = some (.text d.name) := by
  rcases d.shape with ⟨-, told⟩ | ⟨q, -, told | told⟩ <;> rw [told] <;> rfl

theorem get?_quantities (d : Dealing) : d.attrs.get? "quantities" = d.quantity.map .int := by
  rcases d.shape with ⟨given, told⟩ | ⟨q, given, told | told⟩ <;> rw [told, given] <;> rfl

theorem get?_quantity (d : Dealing) : d.attrs.get? "quantity" = none := by
  rcases d.shape with ⟨-, told⟩ | ⟨q, -, told | told⟩ <;> rw [told] <;> rfl

theorem without_amount (d : Dealing) :
    d.attrs.without ["quantities", "uses", "type"] = [("name", .text d.name)] := by
  rcases d.shape with ⟨-, told⟩ | ⟨q, -, told | told⟩ <;> rw [told] <;> rfl

theorem withPlainQuantity_attrs (d : Dealing) : Scene.withPlainQuantity d.attrs = d.attrs := by
  rw [Scene.withPlainQuantity, d.get?_quantities]
  cases d.quantity <;> rfl

theorem text?_name (d : Dealing) :
    text? d.attrs "name" = if d.name = "" then none else some d.name := by
  rw [text?, Value.field, d.get?_name]
  change (if (Text.trim d.name).isEmpty then none else some (Text.trim d.name)) = _
  simp only [d.trimmed, String.isEmpty_iff]

theorem numberOrOne_told (d : Dealing) :
    Scene.numberOrOne ((d.attrs.get? "quantities").bind Value.number?) = .int d.amount := by
  rw [d.get?_quantities, amount]
  cases given : d.quantity with
  | none => rfl
  | some q =>
    change (Number.nonzero? (some (.int q))).getD _ = _
    rw [Number.nonzero?_int (d.positive q given)]
    rfl

theorem amountConsumed_told (d : Dealing) :
    Scene.amountConsumed d.attrs = .ok (.int d.amount) := by
  have given : Scene.amountGiven d.attrs = .int d.amount := by
    rw [Scene.amountGiven, Value.field, Value.field, d.get?_quantity, d.get?_quantities, amount]
    cases given : d.quantity with
    | none => rfl
    | some q =>
      have told : Value.isGiven (.int q) = true := by
        simpa [Value.isGiven] using (d.positive q given).ne'
      change (if Value.isGiven (.int q) then Value.int q else .int 1) = _
      rw [if_pos told]
      rfl
  rw [Scene.amountConsumed, given]
  rfl

/-- What is acquired for the first time is a ware with the amount that was told, if any. -/
theorem made (d : Dealing) (named : d.name ≠ "") (id : String) :
    Entity.ofFields (withDefaultId (.text id) (withKind .item (Scene.withOwner d.attrs))) =
      .ok (ware d.name id (d.quantity.map .int)) := by
  refine Entity.ofFields_eq_ok.mpr ?_
  have read : Read.nonEmpty (.text d.name) = .ok d.name := Read.nonEmpty_text named
  rcases d.shape with ⟨given, told⟩ | ⟨q, given, told | told⟩ <;> rw [told, given] <;> constructor
  case inl.name | inr.inl.name | inr.inr.name =>
    exact Fields.need_eq_ok.mpr ⟨_, rfl, read⟩
  all_goals rfl

end Dealing

/-! ### Stocks -/

/-- Whether a state has what a ledger says of a name: nothing, or the ware in that number. -/
inductive Stocks (s : GameState) (name : String) (b : Int) : Prop
  | out (absent : s.find? name = none) (empty : b = 0)
  | held {id : String} {count : Option Number} (found : s.find? name = some (ware name id count))
      (pos : 0 < b) (counted : (ware name id count).count = .int b)

theorem Stocks.congr (same : t.find? name = s.find? name) (h : Stocks s name b) :
    Stocks t name b := by
  cases h with
  | out absent empty => exact .out (same.trans absent) empty
  | held found pos counted => exact .held (same.trans found) pos counted

/-- Whether a change of a state comes to a balance under a name and touches nothing else. -/
structure Books (name : String) (b : Int) (s t : GameState) : Prop where
  stocks : Stocks t name b
  keyed : s.WellKeyed → t.WellKeyed
  elsewhere : ∀ other ≠ name, t.find? other = s.find? other

namespace Books

theorem kept (h : Stocks s name b) : Books name b s s where
  stocks := h
  keyed := id
  elsewhere _ _ := rfl

theorem put {count : Option Number} (pos : 0 < b)
    (counted : (ware name id count).count = .int b) :
    Books name b s (s.put (ware name id count)) where
  stocks := .held ((GameState.find?_put ..).trans (if_pos rfl)) pos counted
  keyed keyed := keyed.put _
  elsewhere _ apart := (GameState.find?_put ..).trans (if_neg (Ne.symm apart))

theorem forget : Books name 0 s (s.forget name) where
  stocks := .out ((GameState.find?_forget ..).trans (if_pos rfl)) rfl
  keyed keyed := keyed.forget name
  elsewhere _ apart := (GameState.find?_forget ..).trans (if_neg apart)

end Books

namespace Scene

variable {d : Dealing}

/-- Whatever is in stock is the player's. -/
theorem ownedItem?_stocks (named : name ≠ "") (stocks : Stocks c.state name b) :
    c.ownedItem? (some name) = c.state.find? name := by
  have asked : c.find? (some name) = c.state.find? name := if_neg (by simpa using named)
  rw [ownedItem?, asked]
  cases stocks with
  | out absent empty => rw [absent, Option.filter_none]
  | held found pos counted =>
    rw [found]
    rfl

/-! ### Acquiring -/

theorem stacked_ware {count : Option Number} (pos : 0 < b)
    (counted : (ware name id count).count = .int b) :
    stacked (ware name id count) d.attrs =
      .ok [("name", .text d.name), ("quantities", .int (b + d.amount))] := by
  have current : numberOrOne (firstNonzero (ware name id count).quantities
      (ware name id count).uses) = .int b := by
    cases count with
    | none => exact counted
    | some x =>
      obtain rfl : x = .int b := counted
      change numberOrOne (firstNonzero (some (.int b)) none) = _
      rw [firstNonzero, Number.nonzero?_int pos, Option.orElse_some, numberOrOne,
        Number.nonzero?_int pos]
      rfl
  have field : stackField (ware name id count) = "quantities" :=
    if_neg (by simp [ware, Number.nonzero?])
  rw [stacked, d.numberOrOne_told, d.without_amount, field, current]
  rfl

theorem acquire_books (named : d.name ≠ "") (stocks : Stocks c.state d.name b) :
    Gives (c.acquire d.attrs) fun p => Books d.name (b + d.amount) c.state p.scene.state := by
  have given : text? d.attrs "name" = some d.name := d.text?_name.trans (if_neg named)
  have added := d.amount_pos
  simp only [acquire, given, d.withPlainQuantity_attrs, ownedItem?_stocks named stocks]
  cases stocks with
  | out absent empty =>
    simp only [absent]
    refine newId_gives.bind fun v drawn => ?_
    obtain ⟨id, rfl⟩ := drawn
    refine (gives_ofOutcome (congrArg Outcome.ofChecked (d.made named id))).bind ?_
    rintro e rfl
    refine gives_pure (.put (by omega) ?_)
    rw [empty, Int.zero_add, Dealing.amount]
    cases d.quantity <;> rfl
  | held found pos counted =>
    simp only [found]
    refine (gives_ofOutcome (stacked_ware pos counted)).bind ?_
    rintro updates rfl
    refine (gives_ofOutcome (congrArg Outcome.ofChecked (Entity.ware_merged named _ _))).bind ?_
    rintro e rfl
    exact gives_pure (.put (by omega) rfl)

/-! ### Consuming -/

theorem supply_counted (pos : 0 < b) :
    supply (ware name id (some (.int b))) = some (.int b) := by
  rw [supply]
  change (Number.nonzero? (some (.int b))).orElse _ = _
  rw [Number.nonzero?_int pos, Option.orElse_some]

theorem withSupply_counted (pos : 0 < b) (x : Number) :
    withSupply (ware name id (some (.int b))) x = ware name id (some x) :=
  if_pos (Option.isSome_iff_exists.mpr ⟨_, Number.nonzero?_int pos⟩)

theorem consume_books (named : d.name ≠ "") (stocks : Stocks c.state d.name b) :
    Gives (c.consume d.attrs) fun p =>
      Books d.name (if d.amount < b then b - d.amount else 0) c.state p.scene.state := by
  have given : text? d.attrs "name" = some d.name := d.text?_name.trans (if_neg named)
  have taken := d.amount_pos
  have owned := ownedItem?_stocks named stocks
  simp only [consume, given, owned]
  cases stocks with
  | out absent empty =>
    simp only [absent]
    refine gives_pure (.kept (.out absent (if_neg ?_)))
    omega
  | @held id count found pos counted =>
    simp only [found]
    refine (gives_ofOutcome d.amountConsumed_told).bind ?_
    rintro amount rfl
    cases count with
    | none =>
      -- An item that was never counted is used up by any amount.
      obtain rfl : 1 = b := Number.int.inj counted
      rw [if_neg (by omega)]
      exact gives_pure .forget
    | some x =>
      obtain rfl : x = .int b := counted
      rw [supply_counted pos]
      simp only [Number.int_le_int]
      by_cases more : d.amount < b
      · rw [if_neg (Int.not_le.mpr more), if_pos more]
        refine (gives_ofOutcome rfl).bind ?_
        rintro rest rfl
        rw [withSupply_counted pos]
        exact gives_pure (.put (by omega) rfl)
      · rw [if_pos (Int.not_lt.mp more), if_neg more]
        exact gives_pure .forget

/-! ### Sequences of dealings -/

/-- A dealing brings the balance under its name up to date and touches nothing else. -/
theorem play_books (d : Dealing) (stocks : Stocks c.state d.name b) :
    Gives (d.kind.play d.attrs c) fun p =>
      Books d.name (d.settle d.name b) c.state p.scene.state := by
  by_cases named : d.name = ""
  · have missing : text? d.attrs "name" = none := d.text?_name.trans (if_pos named)
    have idle : d.kind.play d.attrs c = pure c.kept := by
      rw [Dealing.kind]
      split_ifs
      · exact acquire_lacking missing
      · exact consume_lacking missing
    rw [idle, Dealing.settle, if_pos (.inr named)]
    exact gives_pure (.kept stocks)
  · rw [Dealing.settle, if_neg (by simpa using named), Dealing.kind]
    by_cases gains : d.gains = true
    · simp only [if_pos gains]
      exact acquire_books named stocks
    · simp only [if_neg gains]
      exact consume_books named stocks

/-- Plays dealings one after another. -/
def deal (c : Scene) (ds : List Dealing) : Play Scene :=
  ds.foldlM (fun c d => do return (← d.kind.play d.attrs c).scene) c

/-- Where every name is stocked as a ledger says, dealings lead to what the ledger comes to. -/
theorem deal_stocks (ledger : String → Int) {names : List String} {ds : List Dealing}
    (listed : ∀ d ∈ ds, d.name ∈ names) (keyed : c.state.WellKeyed)
    (stocks : ∀ name ∈ names, Stocks c.state name (ledger name)) :
    Gives (c.deal ds) fun after => after.state.WellKeyed ∧ ∀ name ∈ names,
      Stocks after.state name (ds.foldl (fun b d => d.settle name b) (ledger name)) := by
  induction ds generalizing c ledger with
  | nil => exact gives_pure ⟨keyed, stocks⟩
  | cons d ds ih =>
    obtain ⟨first, later⟩ := List.forall_mem_cons.mp listed
    have step : Gives (do return (← d.kind.play d.attrs c).scene : Play Scene) fun next =>
        Books d.name (d.settle d.name (ledger d.name)) c.state next.state :=
      (play_books d (stocks d.name first)).bind fun p books => gives_pure books
    rw [deal, List.foldlM_cons]
    refine step.bind fun next books => ?_
    refine ih (fun name => d.settle name (ledger name)) later (books.keyed keyed) ?_
    intro name member
    by_cases same : name = d.name
    · rw [same]
      exact books.stocks
    · rw [Dealing.settle, if_pos (.inl (Ne.symm same))]
      exact (stocks name member).congr (books.elsewhere name same)

end Scene

/-- The balance under a name after dealings, where nothing was in stock before. -/
def balance (name : String) (ds : List Dealing) : Int :=
  ds.foldl (fun b d => d.settle name b) 0

/-- Dealings in names that nothing has keep the books. They never fail; afterwards a name is known
just if its balance is positive, and then one entity has it, an item of the player's in that
number. -/
theorem deal_balances (c : Scene) (ds : List Dealing) (keyed : c.state.WellKeyed)
    (new : ∀ d ∈ ds, c.state.find? d.name = none) :
    Gives (c.deal ds) fun after => after.state.WellKeyed ∧ ∀ d ∈ ds,
      ((after.state.find? d.name).isSome ↔ 0 < balance d.name ds) ∧
      ∀ e, after.state.find? d.name = some e →
        after.state.knownEntities.values.filter (·.name = d.name) = [e] ∧
        e.kind = .item ∧ e.owner = some "pc" ∧ e.count = .int (balance d.name ds) := by
  have empty : ∀ name ∈ ds.map (·.name), Stocks c.state name 0 := by
    intro name member
    obtain ⟨d, dealt, rfl⟩ := List.mem_map.mp member
    exact .out (new d dealt) rfl
  have run := Scene.deal_stocks (fun _ => 0)
    (fun d dealt => List.mem_map_of_mem dealt) keyed empty
  refine run.mono ?_
  rintro after ⟨keyed, stocks⟩
  refine ⟨keyed, fun d dealt => ?_⟩
  have named := keyed.filter_name d.name
  have booked : Stocks after.state d.name (balance d.name ds) :=
    stocks d.name (List.mem_map_of_mem dealt)
  cases booked with
  | out absent empty =>
    rw [absent, empty]
    exact ⟨iff_of_false Bool.false_ne_true (Int.lt_irrefl 0),
      fun e found => absurd found.symm (Option.some_ne_none e)⟩
  | held found pos counted =>
    rw [found] at named ⊢
    refine ⟨iff_of_true rfl pos, ?_⟩
    rintro e ⟨⟩
    exact ⟨named, rfl, rfl, counted⟩

/-- A market with a trader. -/
def market : GameState := { knownEntities := [("Mara", { name := "Mara", kind := .npc })] }

def torch : Dealing where
  gains := true
  name := "Torch"
  quantity := none
  attrs := [("name", .text "Torch")]
  trimmed := by decide +kernel
  positive := nofun
  told := .refl _

def rope : Dealing where
  gains := true
  name := "Rope"
  quantity := some 3
  attrs := [("quantities", .int 3), ("name", .text "Rope")]
  trimmed := by decide +kernel
  positive := by simp
  told := .swap ..

def torchUsed : Dealing := { torch with gains := false }

def ropesUsed : Dealing where
  gains := false
  name := "Rope"
  quantity := some 5
  attrs := [("name", .text "Rope"), ("quantities", .int 5)]
  trimmed := by decide +kernel
  positive := by simp
  told := .refl _

/-- Torches come in without an amount and one is used up; more rope is used than there is. -/
def outfit : List Dealing := [torch, rope, torch, torch, torchUsed, ropesUsed]

theorem market_balances : market.WellKeyed ∧ (∀ d ∈ outfit, market.find? d.name = none) ∧
    Gives (Scene.deal { state := market } outfit) fun after =>
      (∃ e, after.state.find? "Torch" = some e ∧ e.count = .int 2) ∧
        after.state.find? "Rope" = none := by
  have keyed : market.WellKeyed := by decide
  have new : ∀ d ∈ outfit, market.find? d.name = none := by
    simp only [outfit, List.mem_cons, List.not_mem_nil, or_false, forall_eq_or_imp, forall_eq]
    decide
  refine ⟨keyed, new, (deal_balances { state := market } outfit keyed new).mono ?_⟩
  rintro after ⟨-, books⟩
  have torches : balance "Torch" outfit = 2 := by decide
  have ropes : balance "Rope" outfit = 0 := by decide
  obtain ⟨known, held⟩ := books torch (by simp [outfit])
  obtain ⟨spent, -⟩ := books rope (by simp [outfit])
  obtain ⟨e, found⟩ := Option.isSome_iff_exists.mp (known.mpr (torches ▸ by decide))
  refine ⟨⟨e, found, torches ▸ (held e found).2.2.2⟩, Option.not_isSome_iff_eq_none.mp ?_⟩
  exact fun some => absurd (spent.mp some) (ropes ▸ Int.lt_irrefl 0)

end Gamebook
