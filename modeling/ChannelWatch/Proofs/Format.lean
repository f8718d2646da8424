import ChannelWatch.Proofs.Spelling
import ChannelWatch.StoredEvent

/-!
# Stored formats

The JSON forms of logs, stored events, job data and jobs. A `Spelling` says which JSON
values stand for what, without a reader: single values first, then the members of an
object, then the records, which come as an object or as the list of their values. Main
statement: `formats_round_trip`.
-/

namespace ChannelWatch
set_option autoImplicit false

/-- Which JSON values stand for what. -/
abbrev Spelling (α : Type) := Json → α → Prop

namespace Spelling
variable {α : Type}

/-- The reader accepts just the spellings, each as what it stands for. -/
def ReadBy (s : Spelling α) (read : Json → Option α) : Prop :=
  ∀ value a, read value = some a ↔ s value a

/-- The one form that is written. -/
def Exactly (write : α → Json) : Spelling α := fun value a => value = write a

/-- A truth value. -/
def Truth : Spelling Bool := Exactly .bool

/-- A text. -/
def Text : Spelling String := Exactly .string

/-- A number of 8 bits. -/
def Word8 : Spelling UInt8 := Exactly fun n => .nat n.toNat

/-- A number of 32 bits. -/
def Word32 : Spelling UInt32 := Exactly fun n => .nat n.toNat

/-- A number of 64 bits. -/
def Word64 : Spelling UInt64 := Exactly fun n => .nat n.toNat

/-- A list of values of one kind. -/
inductive Listed (s : Spelling α) : Json → List α → Prop
  | array {items as} (each : List.Forall₂ s items as) : Listed s (.array items) as

/-- Bytes: their hexadecimal text, or the list of them as numbers. -/
inductive Bytes : Json → List UInt8 → Prop
  | text {text bytes} (spells : Hex.Spells text.toList bytes) : Bytes (.string text) bytes
  | list {value bytes} (numbers : Listed Word8 value bytes) : Bytes value bytes

/-- A byte string of a fixed size, spelled as bytes. -/
def Fixed (n : Nat) : Spelling (Octets n) := fun value octets => Bytes value octets.toList

/-- An id: the text of one. -/
inductive IdText : Json → Id → Prop
  | text {text id} (spells : Id.Spells text.toList id) : IdText (.string text) id

/-- An amount: the text of one, or a number of 64 bits. -/
inductive AmountForm : Json → Amount → Prop
  | text {text amount} (spells : Numeral.Spells text.toList amount.toNat) :
      AmountForm (.string text) amount
  | number {amount} (small : amount.toNat < UInt64.size) :
      AmountForm (.nat amount.toNat) amount

/-- A name: its text, or that text as the one key of an object. -/
inductive Named (name : α → String) : Json → α → Prop
  | text (a) : Named name (.string (name a)) a
  | key (a) : Named name (.object [(name a, .null)]) a

/-- A value, or `null` for none. -/
inductive Nullable (s : Spelling α) : Json → Option α → Prop
  | none : Nullable s .null none
  | some {value a} (given : value ≠ .null) (spelled : s value a) : Nullable s value (some a)

/-- The value under a key. -/
def Under (s : Spelling α) (members : List (String × Json)) (key : String) (a : α) : Prop :=
  ∃ value, Json.member? members key = some value ∧ s value a

/-- The value under a key, or `absent` where the key is missing. -/
def UnderOr (s : Spelling α) (absent : α) (members : List (String × Json)) (key : String)
    (a : α) : Prop :=
  (Json.member? members key = none ∧ a = absent) ∨ s.Under members key a

/-- A record: an object, or the list of the values that it has under its keys, in order and
with the last ones left off where they may be missing. -/
inductive Record (keys : List String) (described : List (String × Json) → α → Prop) :
    Json → α → Prop
  | object {members a} (fields : described members a) : Record keys described (.object members) a
  | array {values a} (fits : values.length ≤ keys.length)
      (fields : described (keys.zip values) a) : Record keys described (.array values) a

/-- A format keeps what it stores: a value is read back from its written form, the values
that are read are the spellings, and each of them, written anew, is read as before. -/
structure RoundTrips (s : Spelling α) (write : α → Json) (read : Json → Option α) : Prop where
  restored : ∀ a, read (write a) = some a
  accepted : s.ReadBy read
  rewritten : ∀ value a, read value = some a → read (write a) = some a

section readers
variable {s : Spelling α} {read : Json → Option α}

theorem exactly_readBy {write : α → Json} (restored : ∀ a, read (write a) = some a)
    (shape : ∀ value a, read value = some a → value = write a) : ReadBy (Exactly write) read :=
  fun value a => ⟨shape value a, fun h => h ▸ restored a⟩

theorem nat?_eq_some_iff {value : Json} {n : Nat} : Json.nat? value = some n ↔ value = .nat n := by
  constructor
  · intro h
    unfold Json.nat? at h
    split at h
    · simp_all [Json.nat]
    · simp at h
  · rintro rfl
    exact Json.nat?_nat n

theorem below?_eq_some_iff {bound n : Nat} {value : Json} :
    Json.below? bound value = some n ↔ value = .nat n ∧ n < bound := by
  simp only [Json.below?, Option.bind_eq_bind, Option.bind_eq_some_iff, nat?_eq_some_iff]
  grind

theorem truth_readBy : ReadBy Truth Json.bool? := by
  refine exactly_readBy (fun b => rfl) fun value b h => ?_
  cases value <;> simp_all [Json.bool?]

theorem text_readBy : ReadBy Text Json.string? := by
  refine exactly_readBy (fun text => rfl) fun value text h => ?_
  cases value <;> simp_all [Json.string?]

theorem word8_readBy :
    ReadBy Word8 fun value => (Json.below? 256 value).map UInt8.ofNat := by
  refine exactly_readBy (fun n => ?_) fun value n h => ?_
  · rw [Json.below?_nat n.toNat_lt, Option.map_some, UInt8.ofNat_toNat]
  · obtain ⟨m, read, rfl⟩ := Option.map_eq_some_iff.1 h
    obtain ⟨rfl, small⟩ := below?_eq_some_iff.1 read
    rw [UInt8.toNat_ofNat_of_lt' small]

theorem word32_readBy : ReadBy Word32 Json.uint32? := by
  refine exactly_readBy Json.uint32?_nat fun value n h => ?_
  obtain ⟨m, read, rfl⟩ := Option.map_eq_some_iff.1 h
  obtain ⟨rfl, small⟩ := below?_eq_some_iff.1 read
  rw [UInt32.toNat_ofNat_of_lt' small]

theorem word64_readBy : ReadBy Word64 Json.uint64? := by
  refine exactly_readBy Json.uint64?_nat fun value n h => ?_
  obtain ⟨m, read, rfl⟩ := Option.map_eq_some_iff.1 h
  obtain ⟨rfl, small⟩ := below?_eq_some_iff.1 read
  rw [UInt64.toNat_ofNat_of_lt' small]

theorem mapM_eq_some_iff {items : List Json} {as : List α} :
    items.mapM read = some as ↔ List.Forall₂ (fun item a => read item = some a) items as := by
  induction items generalizing as with
  | nil => cases as <;> simp
  | cons item items ih =>
    cases as with
    | nil => simp [Option.bind_eq_some_iff]
    | cons a as =>
      simp only [List.mapM_cons, Option.bind_eq_bind, Option.bind_eq_some_iff, ih,
        List.forall₂_cons]
      simp

theorem listed_readBy (item : ReadBy s read) : ReadBy (Listed s) (Json.list? read) := by
  intro value as
  have each : (fun item a => read item = some a) = s :=
    funext₂ fun value a => propext (item value a)
  constructor
  · intro h
    cases value <;> simp only [Json.list?, reduceCtorEq] at h
    rw [mapM_eq_some_iff, each] at h
    exact .array h
  · rintro ⟨spelled⟩
    rw [Json.list?, mapM_eq_some_iff, each]
    exact spelled

theorem bytes_readBy : ReadBy Bytes Json.bytes? := by
  have numbers := listed_readBy word8_readBy
  intro value bytes
  constructor
  · intro h
    cases value with
    | string text => exact .text (Hex.read?_eq_some_iff.1 h)
    | array items => exact .list ((numbers _ _).1 h)
    | _ => simp [Json.bytes?] at h
  · rintro (spells | listed)
    · exact Hex.read?_eq_some_iff.2 spells
    · have read := (numbers _ _).2 listed
      obtain ⟨-⟩ := listed
      exact read

theorem fixed_readBy (n : Nat) : ReadBy (Fixed n) (Json.octets? n) := by
  intro value octets
  simp only [Json.octets?, Option.bind_eq_some_iff, Octets.ofList?_eq_some_iff,
    bytes_readBy value, Fixed]
  constructor
  · rintro ⟨bytes, spelled, rfl⟩
    exact spelled
  · intro spelled
    exact ⟨_, spelled, rfl⟩

theorem id_readBy : ReadBy IdText Json.id? := by
  intro value id
  constructor
  · intro h
    obtain ⟨text, found, read⟩ := Option.bind_eq_some_iff.1 h
    obtain rfl := (text_readBy value text).1 found
    exact .text (Id.read?_eq_some_iff.1 read)
  · rintro ⟨spells⟩
    exact Id.read?_eq_some_iff.2 spells

theorem toNat_ofNat_of_lt {n : Nat} (small : n < capacity 32) : (BitVec.ofNat 256 n).toNat = n :=
  Nat.mod_eq_of_lt small

theorem amount_readBy : ReadBy AmountForm Amount.ofJson? := by
  intro value amount
  constructor
  · intro h
    unfold Amount.ofJson? at h
    split at h
    · obtain ⟨n, read, rfl⟩ := Option.map_eq_some_iff.1 h
      obtain ⟨spells, small⟩ := Numeral.amount?_eq_some_iff.1 read
      have same : (BitVec.ofNat 256 n).toNat = n := toNat_ofNat_of_lt small
      exact .text (same.symm ▸ spells)
    · obtain ⟨n, read, rfl⟩ := Option.map_eq_some_iff.1 h
      obtain ⟨rfl, small⟩ := below?_eq_some_iff.1 read
      have same : (BitVec.ofNat 256 n).toNat = n :=
        toNat_ofNat_of_lt (Nat.lt_trans small (by decide))
      have number : AmountForm (.nat (BitVec.ofNat 256 n).toNat) (BitVec.ofNat 256 n) :=
        .number (same.symm ▸ small)
      rwa [same] at number
  · rintro (spells | small)
    · have bound : amount.toNat < capacity 32 := amount.isLt
      simp [Amount.ofJson?, Numeral.amount?_eq_some_iff.2 ⟨spells, bound⟩]
    · have number : Amount.ofJson? (.nat amount.toNat) =
          (Json.below? UInt64.size (.nat amount.toNat)).map (BitVec.ofNat 256) := rfl
      rw [number, Json.below?_nat small, Option.map_some, BitVec.ofNat_toNat, BitVec.setWidth_eq]

theorem named_readBy {name : α → String} {table : List α} {find : String → Option α}
    (search : ∀ text, find text = table.find? fun a => name a = text)
    (found : ∀ a, find (name a) = some a) : ReadBy (Named name) (Json.name? find) := by
  have known {text : String} {a : α} (h : find text = some a) : name a = text := by
    rw [search] at h
    simpa using List.find?_some h
  intro value a
  constructor
  · intro h
    unfold Json.name? at h
    split at h
    · rw [← known h]
      exact .text a
    · rw [← known h]
      exact .key a
    · simp at h
  · rintro (_ | _)
    · exact found a
    · exact found a

theorem nullable_readBy (item : ReadBy s read) :
    ReadBy (Nullable s) (Json.nullable read) := by
  intro value o
  constructor
  · intro h
    unfold Json.nullable at h
    split at h
    · obtain rfl := Option.some.inj h
      exact .none
    · rename_i given
      obtain ⟨a, read, rfl⟩ := Option.map_eq_some_iff.1 h
      exact .some given ((item _ _).1 read)
  · rintro (_ | ⟨given, spelled⟩)
    · rfl
    · unfold Json.nullable
      split
      · contradiction
      · rw [(item _ _).2 spelled]
        rfl

theorem required_eq_some_iff (item : ReadBy s read) {members : List (String × Json)}
    {key : String} {a : α} : Json.required read members key = some a ↔ s.Under members key a := by
  simp only [Json.required, Option.bind_eq_some_iff, item _ a, Under]

theorem withDefault_eq_some_iff (item : ReadBy s read) {absent : α}
    {members : List (String × Json)} {key : String} {a : α} :
    Json.withDefault read absent members key = some a ↔ s.UnderOr absent members key a := by
  unfold Json.withDefault UnderOr Under
  cases Json.member? members key with
  | none => simp [eq_comm]
  | some value => simp [item value a]

theorem record_readBy {keys : List String} {described : List (String × Json) → α → Prop}
    (object : ∀ members a, read (.object members) = some a ↔ described members a)
    (array : ∀ values, read (.array values) =
      if values.length ≤ keys.length then read (.object (keys.zip values)) else none)
    (shape : ∀ value a, read value = some a →
      (∃ members, value = .object members) ∨ ∃ values, value = .array values) :
    ReadBy (Record keys described) read := by
  intro value a
  constructor
  · intro h
    rcases shape value a h with ⟨members, rfl⟩ | ⟨values, rfl⟩
    · exact .object ((object _ _).1 h)
    · rw [array] at h
      split at h
      · exact .array ‹_› ((object _ _).1 h)
      · simp at h
  · rintro (fields | ⟨fits, fields⟩)
    · exact (object _ _).2 fields
    · rw [array, if_pos fits]
      exact (object _ _).2 fields

end readers

end Spelling

open Spelling

namespace Log

/-- The keys of a log's object, in the order of a list of its values. -/
def keys : List String := ["address", "blockNumber", "txHash", "topics", "data", "removed"]

/-- What the members of an object say of a log. No other member matters. -/
structure Described (members : List (String × Json)) (log : Log) : Prop where
  address : Under (Fixed 20) members "address" log.address
  block : Under Word64 members "blockNumber" log.block
  tx : Under (Fixed 32) members "txHash" log.tx
  topics : Under (Listed (Fixed 32)) members "topics" log.topics
  data : Under Bytes members "data" log.data
  removed : UnderOr Truth false members "removed" log.removed

/-- The JSON values that stand for a log. -/
def Spelled : Spelling Log := Record keys Described

theorem ofMembers?_eq_some_iff (members : List (String × Json)) (log : Log) :
    ofMembers? members = some log ↔ Described members log := by
  simp only [ofMembers?, Option.bind_eq_bind, Option.bind_eq_some_iff,
    required_eq_some_iff (fixed_readBy _), required_eq_some_iff word64_readBy,
    required_eq_some_iff (listed_readBy (fixed_readBy _)), required_eq_some_iff bytes_readBy,
    withDefault_eq_some_iff truth_readBy]
  constructor
  · rintro ⟨address, ha, block, hb, tx, ht, topics, hl, data, hd, removed, hr, same⟩
    obtain rfl := Option.some.inj same
    exact ⟨ha, hb, ht, hl, hd, hr⟩
  · rintro ⟨ha, hb, ht, hl, hd, hr⟩
    exact ⟨_, ha, _, hb, _, ht, _, hl, _, hd, _, hr, rfl⟩

theorem ofJson?_array (values : List Json) : ofJson? (.array values) =
    if values.length ≤ keys.length then ofJson? (.object (keys.zip values)) else none := by
  rcases values with _ | ⟨a, _ | ⟨b, _ | ⟨c, _ | ⟨d, _ | ⟨e, _ | ⟨f, _ | ⟨g, rest⟩⟩⟩⟩⟩⟩⟩ <;>
    simp [ofJson?, ofMembers?, keys, Json.required, Json.withDefault, Json.member?_entry]

theorem spelled_readBy : ReadBy Spelled ofJson? := by
  refine record_readBy ofMembers?_eq_some_iff ofJson?_array fun value log h => ?_
  cases value <;> simp_all [ofJson?]

end Log

namespace StoredEvent

/-- What the members of an object say of a stored event: those of its log, and its own. -/
structure Described (members : List (String × Json)) (event : StoredEvent) : Prop where
  id : Under IdText members "id" event.id
  log : Log.Described members event.log
  jobRef : UnderOr (Nullable IdText) none members "jobRef" event.jobRef
  failures : Under Word32 members "failures" event.failures

/-- The JSON values that stand for a stored event: objects only. -/
inductive Spelled : Json → StoredEvent → Prop
  | object {members event} (fields : Described members event) : Spelled (.object members) event

theorem spelled_readBy : ReadBy Spelled ofJson? := by
  have object (members : List (String × Json)) (event : StoredEvent) :
      ofJson? (.object members) = some event ↔ Described members event := by
    simp only [ofJson?, Option.bind_eq_bind, Option.bind_eq_some_iff, Json.optional,
      required_eq_some_iff id_readBy, Log.ofMembers?_eq_some_iff,
      withDefault_eq_some_iff (nullable_readBy id_readBy), required_eq_some_iff word32_readBy]
    constructor
    · rintro ⟨id, hi, log, hl, jobRef, hj, failures, hf, same⟩
      obtain rfl := Option.some.inj same
      exact ⟨hi, hl, hj, hf⟩
    · rintro ⟨hi, hl, hj, hf⟩
      exact ⟨_, hi, _, hl, _, hj, _, hf, rfl⟩
  intro value event
  constructor
  · intro h
    cases value with
    | object members => exact .object ((object _ _).1 h)
    | _ => simp [ofJson?] at h
  · rintro ⟨fields⟩
    exact (object _ _).2 fields

end StoredEvent

namespace ClosingRecord

/-- The keys of a closing's object, in the order of a list of its values. -/
def keys : List String := ["id", "kind", "agent", "client", "balance", "openBlock"]

/-- What the members of an object say of a closing. -/
structure Described (members : List (String × Json)) (record : ClosingRecord) : Prop where
  id : Under IdText members "id" record.id
  kind : Under (Named ClosingKind.name) members "kind" record.kind
  agent : Under (Fixed 20) members "agent" record.agent
  client : Under (Fixed 20) members "client" record.client
  balance : Under AmountForm members "balance" record.balance
  openBlock : Under Word64 members "openBlock" record.openBlock

/-- The JSON values that stand for a closing. -/
def Spelled : Spelling ClosingRecord := Record keys Described

theorem ofValues?_eq_some_iff {id kind agent client balance openBlock : Json}
    {record : ClosingRecord} :
    ofValues? id kind agent client balance openBlock = some record ↔
      IdText id record.id ∧ Named ClosingKind.name kind record.kind ∧
        Fixed 20 agent record.agent ∧ Fixed 20 client record.client ∧
        AmountForm balance record.balance ∧ Word64 openBlock record.openBlock := by
  have kind_readBy : ReadBy (Named ClosingKind.name) (Json.name? ClosingKind.ofName?) :=
    named_readBy (fun _ => rfl) ClosingKind.ofName?_name
  simp only [ofValues?, Option.bind_eq_bind, Option.bind_eq_some_iff, id_readBy _ _,
    kind_readBy _ _, fixed_readBy _ _ _, amount_readBy _ _, word64_readBy _ _]
  constructor
  · rintro ⟨_, hi, _, hk, _, ha, _, hc, _, hb, _, ho, same⟩
    obtain rfl := Option.some.inj same
    exact ⟨hi, hk, ha, hc, hb, ho⟩
  · rintro ⟨hi, hk, ha, hc, hb, ho⟩
    exact ⟨_, hi, _, hk, _, ha, _, hc, _, hb, _, ho, rfl⟩

theorem ofJson?_object (members : List (String × Json)) (record : ClosingRecord) :
    ofJson? (.object members) = some record ↔ Described members record := by
  simp only [ofJson?, Option.bind_eq_bind, Option.bind_eq_some_iff, ofValues?_eq_some_iff]
  constructor
  · rintro ⟨i, hi, k, hk, a, ha, c, hc, b, hb, o, ho, si, sk, sa, sc, sb, so⟩
    exact ⟨⟨i, hi, si⟩, ⟨k, hk, sk⟩, ⟨a, ha, sa⟩, ⟨c, hc, sc⟩, ⟨b, hb, sb⟩, ⟨o, ho, so⟩⟩
  · rintro ⟨⟨i, hi, si⟩, ⟨k, hk, sk⟩, ⟨a, ha, sa⟩, ⟨c, hc, sc⟩, ⟨b, hb, sb⟩, ⟨o, ho, so⟩⟩
    exact ⟨i, hi, k, hk, a, ha, c, hc, b, hb, o, ho, si, sk, sa, sc, sb, so⟩

theorem ofJson?_array (values : List Json) : ofJson? (.array values) =
    if values.length ≤ keys.length then ofJson? (.object (keys.zip values)) else none := by
  rcases values with _ | ⟨a, _ | ⟨b, _ | ⟨c, _ | ⟨d, _ | ⟨e, _ | ⟨f, _ | ⟨g, rest⟩⟩⟩⟩⟩⟩⟩ <;>
    simp [ofJson?, keys, Json.member?_entry]

theorem spelled_readBy : ReadBy Spelled ofJson? := by
  refine record_readBy ofJson?_object ofJson?_array fun value record h => ?_
  cases value <;> simp_all [ofJson?]

end ClosingRecord

namespace Payload

/-- The keys of the object of a job's data, in the order of a list of its values. -/
def keys : List String := ["ethereumLog", "closing", "updateRatings"]

/-- What the members of an object say of the data of a job. -/
structure Described (members : List (String × Json)) (payload : Payload) : Prop where
  log : Under Log.Spelled members "ethereumLog" payload.log
  closing : UnderOr (Nullable ClosingRecord.Spelled) none members "closing" payload.closing
  updateRatings : UnderOr Truth false members "updateRatings" payload.updateRatings

/-- The JSON values that stand for the data of a job. -/
def Spelled : Spelling Payload := Record keys Described

theorem ofJson?_object (members : List (String × Json)) (payload : Payload) :
    ofJson? (.object members) = some payload ↔ Described members payload := by
  simp only [ofJson?, Option.bind_eq_bind, Option.bind_eq_some_iff, Json.optional,
    required_eq_some_iff Log.spelled_readBy,
    withDefault_eq_some_iff (nullable_readBy ClosingRecord.spelled_readBy),
    withDefault_eq_some_iff truth_readBy]
  constructor
  · rintro ⟨log, hl, closing, hc, updateRatings, hu, same⟩
    obtain rfl := Option.some.inj same
    exact ⟨hl, hc, hu⟩
  · rintro ⟨hl, hc, hu⟩
    exact ⟨_, hl, _, hc, _, hu, rfl⟩

theorem ofJson?_array (values : List Json) : ofJson? (.array values) =
    if values.length ≤ keys.length then ofJson? (.object (keys.zip values)) else none := by
  rcases values with _ | ⟨a, _ | ⟨b, _ | ⟨c, _ | ⟨d, rest⟩⟩⟩⟩ <;>
    simp [ofJson?, ofLog, keys, Json.required, Json.optional, Json.withDefault,
      Json.member?_entry]

theorem spelled_readBy : ReadBy Spelled ofJson? := by
  refine record_readBy ofJson?_object ofJson?_array fun value payload h => ?_
  cases value <;> simp_all [ofJson?]

end Payload

namespace Job

/-- The keys of a job's object, in the order of a list of its values. -/
def keys : List String :=
  ["type", "relatedType", "relatedId", "originEvent", "createdBy", "data"]

/-- What the members of an object say of a job. The data is any value. -/
structure Described (members : List (String × Json)) (job : Job) : Prop where
  type : Under (Named JobType.name) members "type" job.type
  relatedType : Under (Named RelatedType.name) members "relatedType" job.relatedType
  relatedId : Under IdText members "relatedId" job.relatedId
  originEvent : Under IdText members "originEvent" job.originEvent
  createdBy : Under Text members "createdBy" job.createdBy
  data : Json.member? members "data" = some job.data

/-- The JSON values that stand for a job. -/
def Spelled : Spelling Job := Record keys Described

theorem ofValues?_eq_some_iff {type relatedType relatedId originEvent createdBy data : Json}
    {job : Job} :
    ofValues? type relatedType relatedId originEvent createdBy data = some job ↔
      Named JobType.name type job.type ∧ Named RelatedType.name relatedType job.relatedType ∧
        IdText relatedId job.relatedId ∧ IdText originEvent job.originEvent ∧
        Text createdBy job.createdBy ∧ data = job.data := by
  have type_readBy : ReadBy (Named JobType.name) (Json.name? JobType.ofName?) :=
    named_readBy (fun _ => rfl) JobType.ofName?_name
  have related_readBy : ReadBy (Named RelatedType.name) (Json.name? RelatedType.ofName?) :=
    named_readBy (fun _ => rfl) RelatedType.ofName?_name
  simp only [ofValues?, Option.bind_eq_bind, Option.bind_eq_some_iff, id_readBy _ _,
    type_readBy _ _, related_readBy _ _, text_readBy _ _]
  constructor
  · rintro ⟨_, ht, _, hr, _, hi, _, ho, _, hc, same⟩
    obtain rfl := Option.some.inj same
    exact ⟨ht, hr, hi, ho, hc, rfl⟩
  · rintro ⟨ht, hr, hi, ho, hc, rfl⟩
    exact ⟨_, ht, _, hr, _, hi, _, ho, _, hc, rfl⟩

theorem ofJson?_object (members : List (String × Json)) (job : Job) :
    ofJson? (.object members) = some job ↔ Described members job := by
  simp only [ofJson?, Option.bind_eq_bind, Option.bind_eq_some_iff, ofValues?_eq_some_iff]
  constructor
  · rintro ⟨t, ht, r, hr, i, hi, o, ho, c, hc, _, hd, st, sr, si, so, sc, rfl⟩
    exact ⟨⟨t, ht, st⟩, ⟨r, hr, sr⟩, ⟨i, hi, si⟩, ⟨o, ho, so⟩, ⟨c, hc, sc⟩, hd⟩
  · rintro ⟨⟨t, ht, st⟩, ⟨r, hr, sr⟩, ⟨i, hi, si⟩, ⟨o, ho, so⟩, ⟨c, hc, sc⟩, hd⟩
    exact ⟨t, ht, r, hr, i, hi, o, ho, c, hc, _, hd, st, sr, si, so, sc, rfl⟩

theorem ofJson?_array (values : List Json) : ofJson? (.array values) =
    if values.length ≤ keys.length then ofJson? (.object (keys.zip values)) else none := by
  rcases values with _ | ⟨a, _ | ⟨b, _ | ⟨c, _ | ⟨d, _ | ⟨e, _ | ⟨f, _ | ⟨g, rest⟩⟩⟩⟩⟩⟩⟩ <;>
    simp [ofJson?, keys, Json.member?_entry]

theorem spelled_readBy : ReadBy Spelled ofJson? := by
  refine record_readBy ofJson?_object ofJson?_array fun value job h => ?_
  cases value <;> simp_all [ofJson?]

end Job

theorem Spelling.roundTrips_of_readBy {α : Type} {s : Spelling α} {write : α → Json}
    {read : Json → Option α} (restored : ∀ a, read (write a) = some a)
    (accepted : ReadBy s read) : RoundTrips s write read :=
  ⟨restored, accepted, fun _ a _ => restored a⟩

/-- Logs, stored events, the data of jobs and jobs come back from their JSON forms as they
were. The readers take just the spellings, with closing, ratings, job reference and removal
missing and other members present or not, and what stands for a value in any spelling can
be replaced by the form that is written. -/
theorem formats_round_trip :
    RoundTrips Log.Spelled Log.toJson Log.ofJson? ∧
    RoundTrips StoredEvent.Spelled StoredEvent.toJson StoredEvent.ofJson? ∧
    RoundTrips Payload.Spelled Payload.toJson Payload.ofJson? ∧
    RoundTrips Job.Spelled Job.toJson Job.ofJson? :=
  ⟨roundTrips_of_readBy Log.ofJson?_toJson Log.spelled_readBy,
    roundTrips_of_readBy StoredEvent.ofJson?_toJson StoredEvent.spelled_readBy,
    roundTrips_of_readBy Payload.ofJson?_toJson Payload.spelled_readBy,
    roundTrips_of_readBy Job.ofJson?_toJson Job.spelled_readBy⟩

namespace Sample

/-- The address `0xab…ab`. -/
def spelledAddress : Address := ⟨List.replicate 20 0xab, List.length_replicate⟩

/-- The data of a job in unusual spellings: digits in upper case without a mark, bytes as
numbers, an id in braces, a closing as a list, a decimal amount, a member that is not known,
and no word on removal and ratings. -/
def spelledPayload : Json :=
  .object [
    ("closing", .array [
      .string "\x7b00000000-0000-0000-0000-0000000000FF\x7d",
      .object [("cooperative", .null)],
      .string "ABABABABABABABABABABABABABABABABABABABAB",
      .string "0Xabababababababababababababababababababab",
      .string "1_000",
      .nat 3]),
    ("note", .bool true),
    ("ethereumLog", .object [
      ("address", .string "0xABababababababababababababababababababab"),
      ("blockNumber", .nat 7),
      ("txHash", .array (List.replicate 32 (.nat 9))),
      ("topics", .array []),
      ("data", .string "")])]

/-- What it stands for. -/
def readPayload : Payload where
  log := ⟨spelledAddress, 7, ⟨List.replicate 32 9, List.length_replicate⟩, [], [], false⟩
  closing := some {
    id := ⟨List.replicate 15 0 ++ [255], rfl⟩
    kind := .cooperative
    agent := spelledAddress
    client := spelledAddress
    balance := 1000
    openBlock := 3 }
  updateRatings := false

end Sample

/-- The unusual spellings are read, and so are the usual ones in their place. -/
theorem round_trip_of_spelled :
    Payload.Spelled Sample.spelledPayload Sample.readPayload ∧
    Payload.ofJson? Sample.readPayload.toJson = some Sample.readPayload := by
  have read : Payload.ofJson? Sample.spelledPayload = some Sample.readPayload := by
    decide +kernel
  obtain ⟨-, -, payload, -⟩ := formats_round_trip
  exact ⟨(payload.accepted _ _).1 read, payload.rewritten _ _ read⟩

end ChannelWatch
