import FormFlow.Identifier.Basic
import FormFlow.Timestamp
import FormFlow.Value.Basic

/-!
# Codecs

A codec writes a type as values and reads it back. Reading is strict: a value of another kind, a
number out of range or an unknown name is refused. A codec is lawful when it reads what it writes.
-/

namespace FormFlow

structure Codec (α : Type) where
  encode : α → Value
  decode? : Value → Option α

namespace Codec

variable {α β : Type}

/-- What is written is read back. -/
def Lawful (codec : Codec α) : Prop :=
  ∀ x, codec.decode? (codec.encode x) = some x

/-- Any value as it is. -/
def value : Codec Value := ⟨id, some⟩

def text : Codec String := ⟨.string, Value.text?⟩

def fields : Codec (Fields Value) := ⟨.object, Value.fields?⟩

def bool : Codec Bool where
  encode := .bool
  decode?
    | .bool b => some b
    | _ => none

/-- Numbers of so many bits, without sign and written as integers. -/
def natural (bits : Nat) : Codec Nat where
  encode n := .number (.int n)
  decode?
    | .number (.int n) => if 0 ≤ n ∧ n.toNat < Nat.pow 2 bits then some n.toNat else none
    | _ => none

/-- A type written as another one. -/
def via (codec : Codec β) (forth : α → β) (back? : β → Option α) : Codec α :=
  ⟨fun x => codec.encode (forth x), fun v => (codec.decode? v).bind back?⟩

/-- Lists, item by item. -/
def list (codec : Codec α) : Codec (List α) where
  encode items := .list (items.map codec.encode)
  decode? v := v.items?.bind fun items => items.mapM codec.decode?

/-- A value, or null where there is none. -/
def option (codec : Codec α) : Codec (Option α) where
  encode
    | none => .null
    | some x => codec.encode x
  decode?
    | .null => some none
    | v => (codec.decode? v).map some

/-- Names of a fixed set. They may also be given as the only field of an object that holds null. -/
def enumeration (name : α → String) (ofName? : String → Option α) : Codec α where
  encode x := .string (name x)
  decode?
    | .string s => ofName? s
    | .object [(s, .null)] => ofName? s
    | _ => none

theorem lawful_value : value.Lawful := fun _ => rfl

theorem lawful_text : text.Lawful := fun _ => rfl

theorem lawful_fields : fields.Lawful := fun _ => rfl

theorem lawful_bool : bool.Lawful := fun _ => rfl

theorem decode?_natural {bits n : Nat} (hfits : n < Nat.pow 2 bits) :
    (natural bits).decode? ((natural bits).encode n) = some n := by
  have hnonneg : (0 : Int) ≤ n := Int.natCast_nonneg n
  simp only [natural, hnonneg, Int.toNat_natCast, hfits, and_self, if_true]

theorem Lawful.via {codec : Codec β} (lawful : codec.Lawful) {forth : α → β}
    {back? : β → Option α} (hinverse : ∀ x, back? (forth x) = some x) :
    (codec.via forth back?).Lawful := by
  intro x
  simp only [Codec.via, lawful (forth x), Option.bind_some, hinverse]

/-- A list is read as the list of what each of its items is read as. -/
theorem decode?_list {codec : Codec α} {again : α → α}
    (heach : ∀ x, codec.decode? (codec.encode x) = some (again x)) (items : List α) :
    codec.list.decode? (codec.list.encode items) = some (items.map again) := by
  show (items.map codec.encode).mapM codec.decode? = some (items.map again)
  induction items with
  | nil => rfl
  | cons item rest ih => simp [List.mapM_cons, heach item, ih]

theorem Lawful.list {codec : Codec α} (lawful : codec.Lawful) : codec.list.Lawful := by
  intro items
  have heach : ∀ x, codec.decode? (codec.encode x) = some (id x) := lawful
  rw [decode?_list heach, List.map_id]

/-- An optional value is read back if a value is never written as null. -/
theorem Lawful.option {codec : Codec α} (lawful : codec.Lawful)
    (hwritten : ∀ x, codec.encode x ≠ .null) : codec.option.Lawful := by
  intro x
  cases x with
  | none => rfl
  | some x =>
      have hback := lawful x
      have hshown := hwritten x
      simp only [Codec.option]
      cases hencoded : codec.encode x with
      | null => exact absurd hencoded hshown
      | _ => simp_all

theorem lawful_enumeration {name : α → String} {ofName? : String → Option α}
    (hinverse : ∀ x, ofName? (name x) = some x) : (enumeration name ofName?).Lawful :=
  fun x => hinverse x

def word32 : Codec UInt32 :=
  (natural 32).via UInt32.toNat fun n => some (UInt32.ofNat n)

def uuid : Codec Uuid :=
  text.via Uuid.text fun s => Uuid.ofText? s.toList

def timestamp : Codec Timestamp :=
  text.via Timestamp.text fun s => Timestamp.ofText? s.toList

def processId : Codec ProcessId := uuid.via ProcessId.uuid fun id => some ⟨id⟩

def formId : Codec FormId := uuid.via FormId.uuid fun id => some ⟨id⟩

def projectId : Codec ProjectId := uuid.via ProjectId.uuid fun id => some ⟨id⟩

def catalogId : Codec CatalogId := uuid.via CatalogId.uuid fun id => some ⟨id⟩

def instanceId : Codec InstanceId := uuid.via InstanceId.uuid fun id => some ⟨id⟩

def submissionId : Codec SubmissionId := uuid.via SubmissionId.uuid fun id => some ⟨id⟩

def nodeId : Codec NodeId := text.via NodeId.text fun s => some ⟨s⟩

def edgeId : Codec EdgeId := text.via EdgeId.text fun s => some ⟨s⟩

def edgeKey : Codec EdgeKey := text.via EdgeKey.text fun s => some ⟨s⟩

def roleId : Codec RoleId := text.via RoleId.text fun s => some ⟨s⟩

def validatorKey : Codec ValidatorKey := text.via ValidatorKey.text fun s => some ⟨s⟩

end Codec

end FormFlow
