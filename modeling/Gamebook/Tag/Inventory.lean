import Gamebook.Tag.Scene

/-!
Tags of the inventory. Items are addressed by name; but for damage, repair and transformation they
have to be the player's. Items of one name are stacked, and an item that is used up is forgotten.
-/

namespace Gamebook.Scene

open Text Attribute

/-- Drops a quantity that is not a number. -/
def withPlainQuantity (attrs : Fields) : Fields :=
  match attrs.get? "quantities" with
  | some v => if v.number?.isSome then attrs else Keyed.erase attrs "quantities"
  | none => attrs

/-- A number, or one if it is missing or zero. -/
def numberOrOne (x : Option Number) : Number := (Number.nonzero? x).getD (.int 1)

/-- The first of two numbers that is neither missing nor zero. -/
def firstNonzero (x y : Option Number) : Option Number :=
  (Number.nonzero? x).orElse fun _ => Number.nonzero? y

/-- The field that counts an item: its uses if it only has these, its quantity otherwise. -/
def stackField (item : Entity) : String :=
  if (Number.nonzero? item.quantities).isNone && (Number.nonzero? item.uses).isSome then "uses"
  else "quantities"

/-- The updates that add to a stack. -/
def stacked (item : Entity) (attrs : Fields) : Outcome Fields := do
  let incoming := numberOrOne ((attrs.get? "quantities").bind Value.number?)
  let total ← Outcome.ofArithmetic
    ((numberOrOne (firstNonzero item.quantities item.uses)).add? incoming)
  let fields := attrs.without ["quantities", "uses", "type"]
  return Keyed.put fields (stackField item) (.ofNumber total)

/-- The attributes of an item that is the player's unless the tag says otherwise. -/
def withOwner (attrs : Fields) : Fields := Keyed.update [("owner", .text "pc")] attrs

/-- Gives the player an item, on top of those that there are. -/
def acquire (attrs : Fields) (c : Scene) : Play Played := do
  match text? attrs "name" with
  | none => return c.kept
  | some name =>
    let attrs := withPlainQuantity attrs
    match c.ownedItem? (some name) with
    | some item =>
      let updates ← Play.ofOutcome (stacked item attrs)
      let merged ← mergedWith item updates
      return (c.put merged).changed
    | none =>
      let id ← c.newId .item
      let item ← entityOf (withDefaultId id (withKind .item (withOwner attrs)))
      return (c.put item).changed

/-- The first attribute that counts as given, or one. -/
def amountGiven (attrs : Fields) : Value :=
  let quantity := Value.field attrs "quantity"
  let quantities := Value.field attrs "quantities"
  if quantity.isGiven then quantity else if quantities.isGiven then quantities else .int 1

/-- How many of an item are consumed. -/
def amountConsumed (attrs : Fields) : Outcome Number :=
  let v := amountGiven attrs
  match v.number? with
  | some x => .ok x
  | none => (asInt 1 v).map .int

/-- How many of an item there are, if they are counted. -/
def supply (item : Entity) : Option Number :=
  (Number.nonzero? item.quantities).orElse fun _ => item.uses

def withSupply (item : Entity) (x : Number) : Entity :=
  if (Number.nonzero? item.quantities).isSome then { item with quantities := some x }
  else { item with uses := some x }

/-- Uses up some of an item; the last of it is forgotten. -/
def consume (attrs : Fields) (c : Scene) : Play Played :=
  match c.ownedItem? (text? attrs "name") with
  | none => pure c.kept
  | some item => do
    let amount ← Play.ofOutcome (amountConsumed attrs)
    match supply item with
    | none => return (c.onState (·.forget item.name)).changed
    | some current =>
      if current.le amount then return (c.onState (·.forget item.name)).changed
      else
        let rest ← Play.ofOutcome (Outcome.ofArithmetic (current.sub? amount))
        return (c.put (withSupply item rest)).changed

/-- Equips an item that can be equipped. -/
def equip (attrs : Fields) (c : Scene) : Play Played :=
  match (c.ownedItem? (text? attrs "name")).filter (·.equippable) with
  | some item => pure (c.put { item with equipped := true }).changed
  | none => pure c.kept

def unequip (attrs : Fields) (c : Scene) : Play Played :=
  match c.ownedItem? (text? attrs "name") with
  | some item => pure (c.put { item with equipped := false }).changed
  | none => pure c.kept

/-- The attributes of an item that another has been transformed into. -/
def transformedFields (attrs : Fields) (oldName newName : String) (old : Option Entity)
    (id : Value) : Fields :=
  Keyed.update (attrs.without ["oldName", "newName", "referenceId"])
    [("name", .text newName),
      ("type", .text EntityKind.item.name),
      ("owner", .text (textOr "pc" (old.bind (·.owner)))),
      ("description", .text ((text? attrs "description").getD
        ("Vật phẩm được biến đổi từ " ++ oldName ++ "."))),
      ("referenceId", id)]

/-- Transforms whatever has a name into a new item. -/
def transform (attrs : Fields) (c : Scene) : Play Played := do
  match text? attrs "oldName", text? attrs "newName" with
  | some oldName, some newName =>
    let old := c.state.find? oldName
    let cleared := c.onState (·.forget oldName)
    let id ← cleared.newId .item
    let item ← entityOf (transformedFields attrs oldName newName old id)
    return (cleared.put item).changed
  | _, _ => return c.kept

/-- Updates any field of an item but its kind. -/
def updateItem (attrs : Fields) (c : Scene) : Play Played :=
  match c.ownedItem? (text? attrs "name") with
  | none => pure c.kept
  | some item => do
    let merged ← mergedWith item (Keyed.erase attrs "type")
    return (c.put merged).changed

def maxDurability : Number := .int 100

def numberGiven (attrs : Fields) (key : String) : Number :=
  ((attrs.get? key).bind Value.number?).getD (.int 0)

/-- The durability after damage, at least zero. -/
def damaged (durability damage : Number) : Outcome Number := do
  let left ← Outcome.ofArithmetic (durability.sub? damage)
  return (Number.int 0).max left

/-- The durability after a repair, at most the greatest. -/
def repaired (durability amount : Number) : Outcome Number := do
  let raised ← Outcome.ofArithmetic (durability.add? amount)
  return maxDurability.min raised

/-- Changes the durability of an entity that has one. -/
def wear (effect : Number → Outcome Number) (attrs : Fields) (c : Scene) : Play Played :=
  match c.find? (text? attrs "name") with
  | none => pure c.kept
  | some e =>
    match e.durability with
    | none => pure c.kept
    | some durability => do
      let x ← Play.ofOutcome (effect durability)
      return (c.put { e with durability := some x }).changed

def damage (attrs : Fields) (c : Scene) : Play Played :=
  c.wear (damaged · (numberGiven attrs "damage")) attrs

def repair (attrs : Fields) (c : Scene) : Play Played :=
  c.wear (repaired · (numberGiven attrs "repairedAmount")) attrs

/-- Forgets an item of the player. -/
def lose (attrs : Fields) (c : Scene) : Play Played :=
  match c.ownedItem? (text? attrs "name") with
  | some item => pure (c.onState (·.forget item.name)).changed
  | none => pure c.kept

/-- The request to invent special items as a reward. -/
def specialItemRequest (attrs : Fields) : String :=
  let quantity := Value.field attrs "quantities"
  let count := if quantity.isGiven then quantity.display else "1"
  "[AI_GENERATE_SPECIAL_ITEM: Generate " ++ count ++
    " unique mysterious special item(s) as reward(s) for completing \"" ++
    (text? attrs "questTitle").getD "None" ++ "\". Create items with unique names, " ++
    "descriptions, and abilities. Then use ITEM_AQUIRED tag(s) to add them to inventory.]"

/-- Asks the narrator, by way of the text that is shown, to invent special items. -/
def requestSpecialItem (attrs : Fields) (c : Scene) : Play Played :=
  pure (c.append (specialItemRequest attrs)).changed

end Gamebook.Scene
