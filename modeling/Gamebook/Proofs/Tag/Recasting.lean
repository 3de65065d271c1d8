import Gamebook.Proofs.Tag.Attribute
import Gamebook.Tag.Definition
import Gamebook.Tag.Kind
import Gamebook.Tag.Update

/-!
What a tag does to the cast of a game, the known entities and the party. Whatever tag is played, it
introduces an entity, forgets or transforms one, renames one, gives it another kind, lets it join the
party, or does none of this; and what it gives names and kinds to, it takes from its attributes.
-/

namespace Gamebook

open Attribute

namespace TagKind

/-- The kind of the entity that a tag introduces under the name that it gives. -/
def introduced? : TagKind → Option EntityKind
  | .loreNpc => some .npc
  | .loreItem => some .item
  | .loreLocation => some .location
  | .loreFaction => some .faction
  | .loreConcept => some .concept
  | .loreSkill => some .skill
  | .skillLearned => some .skill
  | .itemAcquired => some .item
  | .itemUpdated => some .item
  | .companion => some .companion
  | _ => none

/-- Whether a tag introduces nothing without a description. -/
def needsDescription (kind : TagKind) : Bool :=
  kind = .loreSkill || kind = .skillLearned || kind = .companion

/-- Whether a tag may introduce an entity under a name. An item is updated under a new name only if
the name has blanks around it that the lookup leaves out. -/
def introduces (kind : TagKind) (attrs : Fields) (name : String) : Bool :=
  kind.introduced?.isSome && rawText? attrs "name" = some name &&
    (!kind.needsDescription || (text? attrs "description").isSome) &&
    (kind ≠ .itemUpdated || Text.trim name ≠ name)

/-- Whether a tag may put an entity that it introduces in the place of a name, or drop the entity
that has the name. -/
def takesOver (kind : TagKind) (attrs : Fields) (name : String) : Bool :=
  match kind with
  | .itemTransformed =>
    match text? attrs "oldName", text? attrs "newName" with
    | some old, some new => old = name || new = name
    | _, _ => false
  | .skillUpdate =>
    match text? attrs "oldSkill", text? attrs "newSkill" with
    | some old, some new =>
      old ≠ new && (old = name || new = name && (text? attrs "description").isSome)
    | _, _ => false
  | _ => kind.introduces attrs name

/-- Whether a tag may use up or lose an item. -/
def usesUp (kind : TagKind) : Bool :=
  kind = .itemConsumed || kind = .itemDiscarded || kind = .itemLost

end TagKind

/-- The player first in the party, in the place of any other. -/
def GameState.led (s : GameState) (pc : Entity) : GameState :=
  { s with party := pc :: s.party.filter (·.kind ≠ .pc) }

/-- Whether an updated entity has its kind from before or from a tag. -/
def KindGiven (attrs : Fields) (e updated : Entity) : Prop :=
  updated.kind = e.kind ∨ rawText? attrs "type" = some updated.kind.name

/-- Whether a state is the same or has a described skill under a new name. -/
def Defines (attrs : Fields) (name : String) (s r : GameState) : Prop :=
  r = s ∨ ∃ e : Entity, (text? attrs "description").isSome = true ∧ e.name = name ∧
    e.kind = .skill ∧ r = s.put e

/-- What a tag with its attributes does to the cast of a state. -/
inductive Recasts (kind : TagKind) (attrs : Fields) (s : GameState) : GameState → Prop
  | retold {t : GameState} (rest : Retold s t) : Recasts kind attrs s t
  | introduced {e : Entity} {t : GameState} (named : kind.introduces attrs e.name = true)
    (kinded : kind.introduced? = some e.kind) (rest : Retold (s.put e) t) : Recasts kind attrs s t
  | superseded {old e : Entity} {new : String} {t : GameState}
    (found : s.find? old.name = some old) (skill : old.kind = .skill)
    (named : kind.introduces attrs e.name = true) (kinded : kind.introduced? = some e.kind)
    (rest : Retold (((Skill.replaceReferences s old.name new).1.forget old.name).put e) t)
    (tag : kind = .skillLearned) (learned : text? attrs "name" = some new)
    (shared : Skill.baseName old.name = Skill.baseName new)
    (outranked : Skill.rank old.name < Skill.rank new) : Recasts kind attrs s t
  | joined {e : Entity} (named : kind.introduces attrs e.name = true)
    (kinded : kind.introduced? = some e.kind) (companion : kind = .companion) :
    Recasts kind attrs s ((Scene.joinParty e s).putKnown e.name e)
  | forgotten {e : Entity} (found : s.find? e.name = some e) (item : e.kind = .item)
    (tag : kind.usesUp = true) (asked : text? attrs "name" = some e.name)
    (owned : e.isOwnedItem = true) : Recasts kind attrs s (s.forget e.name)
  | transformed {old : String} {e : Entity} (tag : kind = .itemTransformed)
    (source : text? attrs "oldName" = some old) (target : text? attrs "newName" = some e.name)
    (item : e.kind = .item) : Recasts kind attrs s ((s.forget old).put e)
  | succeeded {old new : String} {r t : GameState} (tag : kind = .skillUpdate)
    (source : text? attrs "oldSkill" = some old) (target : text? attrs "newSkill" = some new)
    (apart : old ≠ new)
    (defined : Defines attrs new s r) (rest : Retold r t) (dropped : Bool)
    (unheld : dropped = true → Skill.isHeld t old = false) :
    Recasts kind attrs s (if dropped then t.forget old else t)
  | updated {e updated : Entity} {t : GameState} (tag : kind = .entityUpdate)
    (found : s.find? e.name = some e) (asked : text? attrs "name" = some e.name)
    (named : updated.name = e.name) (kinded : KindGiven attrs e updated)
    (rest : Retold (s.put updated) t) : Recasts kind attrs s t
  | renamed {e updated : Entity} {t : GameState} (tag : kind = .entityUpdate)
    (found : s.find? e.name = some e) (asked : text? attrs "name" = some e.name)
    (named : text? attrs "newName" = some updated.name) (apart : updated.name ≠ e.name)
    (kinded : KindGiven attrs e updated) (rest : Retold (s.rename e.name updated) t) :
    Recasts kind attrs s t
  | playerIntroduced {pc : Entity} {t : GameState} (tag : kind = .lorePc) (absent : s.pc? = none)
    (named : rawText? attrs "name" = some pc.name) (kinded : pc.kind = .pc)
    (rest : Retold ((s.putKnown pc.name pc).led pc) t) : Recasts kind attrs s t
  | playerDescribed {existing pc : Entity} {t : GameState} (tag : kind = .lorePc)
    (present : s.pc? = some existing) (named : pc.name = (text? attrs "name").getD existing.name)
    (kinded : pc.kind = .pc) (rest : Retold ((Scene.storePlayer s existing.name pc).led pc) t) :
    Recasts kind attrs s t

end Gamebook
