import Gamebook.State.Basic
import Gamebook.Text.Case
import Gamebook.Text.Scan

/-!
Importance of memories, from 0 to 100. The score adds up what is known of a memory: its source, how
recent it is, whom it concerns, how much feeling it carries and which words it uses. It decides
which memories stay active, so it is computed anew whenever memories are ranked.
-/

namespace Gamebook

open Text

/-- Points for words of one kind: each occurrence of a phrase of a group counts. -/
structure PhrasePoints where
  groups : List (List String)
  points : Double

/-- Words that make a memory important. -/
def contentPoints : List PhrasePoints :=
  [⟨[["chết", "tử vong", "hi sinh", "thiệt mạng"],
      ["cưới", "kết hôn", "đính hôn"],
      ["chiến thắng", "thắng lợi", "đại thắng"],
      ["thua cuộc", "thất bại", "thảm bại"],
      ["yêu", "phải lòng", "si mê"]], .ofInt 10⟩,
    ⟨[["học được", "nâng cấp", "tiến bộ", "thăng cấp"],
      ["gặp gỡ", "kết bạn", "đồng minh", "thù địch"],
      ["nhận được", "tìm thấy", "thu thập", "mua được"],
      ["bí mật", "bí ẩn", "khám phá", "phát hiện"]], .ofInt 5⟩,
    ⟨[["ăn", "uống", "ngủ", "nghỉ ngơi"],
      ["mua sắm", "đi chợ", "dạo phố"],
      ["trò chuyện", "nói chuyện", "tám"]], .ofInt 1⟩]

/-- Words that carry feeling, good or bad. -/
def emotionPoints : List PhrasePoints :=
  [⟨[["hạnh phúc", "vui mừng", "phấn khích", "tuyệt vời"],
      ["yêu", "phải lòng", "si mê", "đam mê"],
      ["chiến thắng", "thành công", "đại thắng"]], .ofInt 4⟩,
    ⟨[["vui", "thoải mái", "hài lòng", "tốt"],
      ["bạn bè", "đồng minh", "tin tưởng"]], .ofRatio 3 2⟩,
    ⟨[["chết", "tử vong", "thảm kịch", "đau khổ"],
      ["ghét", "căm thù", "thù địch", "phản bội"],
      ["thất bại", "thảm bại", "thua cuộc"]], .ofInt (-4)⟩,
    ⟨[["buồn", "khó chịu", "thất vọng", "lo lắng"],
      ["kẻ thù", "đối địch", "xung đột"]], .ofRatio (-3) 2⟩]

/-- Words that tell the category of a memory; the first category with a word counts. -/
def categoryWords : List (MemoryCategory × List String) :=
  [(.combat, ["tấn công", "đánh", "chiến đấu", "giết", "chém", "đâm", "phòng thủ", "né tránh"]),
    (.relationship, ["yêu", "ghét", "bạn", "thù", "cưới", "hôn", "thân thiết", "xa cách"]),
    (.discovery, ["tìm thấy", "khám phá", "phát hiện", "bí mật", "bí ẩn", "tìm kiếm"]),
    (.social, ["nói", "thuyết phục", "giao dịch", "mua", "bán", "gặp gỡ", "trò chuyện"]),
    (.story, ["chết", "cưới", "chiến thắng", "thất bại", "kết thúc", "bắt đầu"])]

/-- The points that a text in small letters earns. -/
def phraseScore (table : List PhrasePoints) (lowered : String) : Double :=
  table.foldl (fun total entry =>
    entry.groups.foldl (fun total phrases =>
      total + Double.ofInt (countPhrases phrases lowered) * entry.points) total) 0

/-- The points for important words, fifty at most. -/
def contentImportance (text : String) : Number :=
  (Number.int 50).min (.float (phraseScore contentPoints (lower text)))

/-- The feeling that a text carries, from -10 to 10. -/
def emotionalWeight (text : String) : Double :=
  let total := phraseScore emotionPoints (lower text)
  let high : Double := .ofInt 10
  let low : Double := .ofInt (-10)
  let bounded := if total.lt high then total else high
  if low.lt bounded then bounded else low

/-- The category that the words of a text suggest. -/
def suggestCategory (text : String) : MemoryCategory :=
  let lowered := lower text
  match categoryWords.find? fun entry => occursAny entry.2 lowered with
  | some entry => entry.1
  | none => .general

/-- A score with the reasons for it and advice on what would raise it. -/
structure Analysis where
  score : Double
  reasons : List String
  suggestions : List String

/-- Points and the reason for them; without a reason they do not count. -/
structure Bonus where
  points : Number
  reason : String

namespace Memory

def sourcePoints : Option MemorySource → Int
  | some .chronicle => 30
  | some .manual => 20
  | _ => 10

def categoryPoints : MemoryCategory → Option Int
  | .story => some 15
  | .relationship => some 10
  | .combat => some 8
  | .discovery => some 6
  | .social => some 5
  | _ => none

/-- The number of turns since a moment, times a rate, taken off a bonus, but never below zero. -/
def fading (full : Int) (rate : Double) (turn : Nat) (moment : Int) : Outcome Double := do
  let turns ← Outcome.ofArithmetic (Number.int (turn - moment)).toDouble?
  let left := Double.ofInt full - turns * rate
  return if Double.lt 0 left then left else 0

/-- The points of one related entity. -/
def entityPoints (s : GameState) (name : String) : Int :=
  match s.find? name with
  | none => 0
  | some e =>
    if e.kind = .companion then 10
    else if e.kind = .pc || e.owner = some "pc" then 5
    else if e.kind = .npc then 3
    else 0

def pinBonus (m : Memory) : List Bonus :=
  if m.pinned then [⟨.int 50, "User pinned (+50)"⟩] else []

/-- The bonus for a moment that is set and not too long ago. -/
def momentBonus (label : String) (full : Int) (rate : Double) (turn : Nat) (moment : Option Int) :
    Outcome (List Bonus) :=
  match moment with
  | none => .ok []
  | some t =>
    if t = 0 then .ok []
    else do
      let left ← fading full rate turn t
      return if Double.lt 0 left then
        [⟨.float left, label ++ " (+" ++ left.oneDecimal ++ ")"⟩] else []

def entityBonus (s : GameState) (m : Memory) : List Bonus :=
  let points := (m.related.map (entityPoints s)).foldl (· + ·) 0
  if points = 0 then []
  else [⟨.int points, "Related entities (+" ++ toString points ++ ")"⟩]

def emotionBonus (m : Memory) : List Bonus :=
  match m.emotionalWeight with
  | none => []
  | some w =>
    if w.isZero then []
    else
      let points := w.abs * .ofInt 2
      [⟨.float points, "Emotional significance (+" ++ points.text ++ ")"⟩]

def categoryBonus (m : Memory) : List Bonus :=
  match m.category with
  | none => []
  | some c =>
    match categoryPoints c with
    | none => []
    | some points => [⟨.int points, c.title ++ " category (+" ++ toString points ++ ")"⟩]

def contentBonus (m : Memory) : List Bonus :=
  let points := contentImportance m.text
  if (Number.int 0).lt points then
    [⟨points, "Content keywords (+" ++ points.text ++ ")"⟩] else []

/-- The points for the source, with the reason. -/
def sourceBonus (m : Memory) : Bonus :=
  let name := match m.source with
    | some source => source.name
    | none => "unknown"
  ⟨.int (sourcePoints m.source),
    "Source " ++ name ++ " (+" ++ toString (sourcePoints m.source) ++ ")"⟩

/-- All bonuses of a memory in the order in which they are added. -/
def bonuses (m : Memory) (s : GameState) : Outcome (List Bonus) := do
  let created ← momentBonus "Recent creation" 20 (.ofRatio 1 2) s.turnCount m.createdAt
  let accessed ← momentBonus "Recently accessed" 15 (.ofRatio 3 10) s.turnCount m.lastAccessed
  return sourceBonus m :: (pinBonus m ++ created ++ accessed ++ entityBonus s m ++ emotionBonus m ++
    categoryBonus m ++ contentBonus m)

/-- The sum of bonuses, added from the first to the last. -/
def total (bs : List Bonus) : Outcome Number :=
  bs.foldlM (fun sum b => Outcome.ofArithmetic (sum.add? b.points)) (.int 0)

/-- Whether a moment is unknown or zero. -/
def isUnset (moment : Option Int) : Bool := moment.all (· = 0)

/-- Advice on a memory with the given total. -/
def advice (m : Memory) (sum : Number) : List String :=
  (if isUnset m.createdAt then ["Add creation timestamp for recency tracking"] else []) ++
  (if m.category.isNone then ["Categorize memory for better importance scoring"] else []) ++
  (if m.related.isEmpty then ["Link to related entities for context"] else []) ++
  (if sum.lt (.int 30) && !m.pinned then
    ["Consider pinning if this memory is important to you"] else []) ++
  (if (Number.int 80).lt sum && !m.pinned then
    ["High-importance memory - consider auto-pinning"] else [])

/-- A total brought between 0 and 100. -/
def clamp (sum : Number) : Outcome Double := do
  let x ← Outcome.ofArithmetic sum.toDouble?
  let hundred : Double := .ofInt 100
  return if Double.lt 0 x then (if x.lt hundred then x else hundred) else 0

/-- The importance of a memory in the present state. -/
def analyze (m : Memory) (s : GameState) : Outcome Analysis := do
  let bs ← m.bonuses s
  let sum ← total bs
  let score ← clamp sum
  return { score, reasons := bs.map (·.reason), suggestions := m.advice sum }

/-- The score of a memory in the present state. -/
def score (m : Memory) (s : GameState) : Outcome Double := (m.analyze s).map (·.score)

end Memory

/-- The points of an entity for its kind. -/
def Entity.relevancePoints (e : Entity) : Int :=
  match e.kind with
  | .pc => 50
  | .companion => 40
  | .npc => 20
  | .location => 15
  | .skill => 30
  | .item => if e.owner = some "pc" then 25 else 5
  | _ => 10

/-- The relevance of a known entity to the present state, a hundred at most. -/
def entityRelevance (s : GameState) (name : String) : Outcome Number :=
  match s.find? name with
  | none => .ok (.int 0)
  | some e => do
    let mention : Int :=
      match e.lastMentioned with
      | some t => if t = 0 then 0 else max 0 (20 - (s.turnCount - t))
      | none => 0
    let company : Int := if (s.partyMember? name).isSome then 30 else 0
    let points := e.relevancePoints + mention + company
    if e.archived then
      let x ← Outcome.ofArithmetic (Number.int points).toDouble?
      return (Number.int 100).min (.float (x * .ofRatio 3 10))
    else return (Number.int 100).min (.int points)

end Gamebook
