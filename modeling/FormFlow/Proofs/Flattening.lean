import FormFlow.Proofs.Joining

/-!
# What validators see

The data of all nodes is written into one map, node after node in ascending order of their ids, the
node in focus last, and the roles of the caller over everything. So the roles stand under their own
name; any other field has the value it has at the node in focus or, if it is missing there, at the
greatest node that has it. Nodes whose data is no object have no fields. The map does not tell in
which order the nodes were submitted, since a context does not.
-/

namespace FormFlow

namespace Fields

variable {α β : Type} {fields : Fields α}

theorem Sorted.filter (sorted : fields.Sorted) (p : String × α → Bool) :
    Fields.Sorted (fields.filter p) :=
  List.Pairwise.filter p sorted

/-- Of maps that are written over one another, the last that has a name gives its value. -/
theorem get?_foldl_extend {maps : List (Fields α)} (hsorted : ∀ fields ∈ maps, fields.Sorted)
    (start : Fields α) (name : String) :
    (maps.foldl extend start).get? name =
      (maps.reverse.findSome? fun fields => fields.get? name).or (start.get? name) := by
  induction maps generalizing start with
  | nil => rfl
  | cons first rest ih =>
      obtain ⟨hhere, hothers⟩ := List.forall_mem_cons.mp hsorted
      rw [List.foldl_cons, ih hothers, get?_extend hhere, List.reverse_cons, List.findSome?_append,
        Option.or_assoc]
      simp

theorem sorted_foldl_extend (maps : List (Fields α)) {start : Fields α} (sorted : start.Sorted) :
    (maps.foldl extend start).Sorted := by
  induction maps generalizing start with
  | nil => exact sorted
  | cons first rest ih => exact ih (sorted.extend first)

/-- Entries in order, searched from the end: something is found in the entry with the greatest name
of those in which there is something. -/
theorem Sorted.findSome?_reverse_eq_some_iff (sorted : fields.Sorted)
    {find : String × α → Option β} {result : β} :
    fields.reverse.findSome? find = some result ↔
      ∃ entry ∈ fields, find entry = some result ∧
        ∀ later ∈ fields, entry.1 < later.1 → find later = none := by
  constructor
  · intro hfound
    obtain ⟨after, entry, before, hsplit, hhere, hnothing⟩ := List.findSome?_eq_some_iff.mp hfound
    have hwhole : fields = before.reverse ++ entry :: after.reverse := by
      rw [← List.reverse_reverse fields, hsplit]
      simp
    subst hwhole
    obtain ⟨-, -, hbelow⟩ := List.pairwise_append.mp sorted
    refine ⟨entry, List.mem_append_right _ List.mem_cons_self, hhere, ?_⟩
    intro later hmem habove
    rcases List.mem_append.mp hmem with hbefore | hrest
    · exact absurd (hbelow later hbefore entry List.mem_cons_self) (String.lt_asymm habove)
    · rcases List.mem_cons.mp hrest with rfl | hafter
      · exact absurd habove (String.lt_irrefl _)
      · exact hnothing later (List.mem_reverse.mp hafter)
  · rintro ⟨entry, hmem, hhere, hlast⟩
    obtain ⟨before, after, rfl⟩ := List.append_of_mem hmem
    obtain ⟨-, hrest, -⟩ := List.pairwise_append.mp sorted
    obtain ⟨habove, -⟩ := List.pairwise_cons.mp hrest
    refine List.findSome?_eq_some_iff.mpr ⟨after.reverse, entry, before.reverse, by simp, hhere, ?_⟩
    intro later hmem
    have hthere : later ∈ after := List.mem_reverse.mp hmem
    have hin := List.mem_append_right before (List.mem_cons_of_mem entry hthere)
    exact hlast later hin (habove later hthere)

end Fields

/-- The value of a field, if there is an object and it has the field. -/
def Value.field? (value : Value) (name : String) : Option Value :=
  (value.fields?.getD []).get? name

theorem Value.field?_eq_some_iff {value held : Value} {name : String} :
    held.field? name = some value ↔
      ∃ fields : Fields Value, held = .object fields ∧ fields.get? name = some value := by
  cases held <;> simp [field?, fields?]

namespace Instance

/-- The data kept under a node is an object whose field has the value. -/
def FieldAt (document : Instance) (node : NodeId) (name : String) (value : Value) : Prop :=
  ∃ fields : Fields Value,
    document.context.get? node.text = some (.object fields) ∧ fields.get? name = some value

/-- What is shown of a document under a name: the roles of the caller under theirs; under any other
the field at the node in focus and, if that has none, the field at the greatest of the nodes that
have one. -/
inductive Shows (document : Instance) (focus : Option NodeId) (roles : List RoleId) :
    String → Value → Prop
  | roles : Shows document focus roles "role_ids" (roleList roles)
  | focused {name : String} {value : Value} {node : NodeId} (hdifferent : name ≠ "role_ids")
      (hfocus : focus = some node) (hhere : document.FieldAt node name value) :
      Shows document focus roles name value
  | greatest {name : String} {value : Value} {node : NodeId} (hdifferent : name ≠ "role_ids")
      (hunfocused : ∀ center, focus = some center → ∀ other, ¬ document.FieldAt center name other)
      (hhere : document.FieldAt node name value)
      (hlast : ∀ later : NodeId, node.text < later.text →
        ∀ other, ¬ document.FieldAt later name other) :
      Shows document focus roles name value

variable {document : Instance} {focus : Option NodeId} {roles : List RoleId} {name : String}
  {value : Value}

theorem fieldAt_iff {node : NodeId} : document.FieldAt node name value ↔
    ∃ held, document.context.get? node.text = some held ∧ held.field? name = some value := by
  simp only [FieldAt, Value.field?_eq_some_iff]
  constructor
  · rintro ⟨fields, hkept, hhere⟩
    exact ⟨_, hkept, fields, rfl, hhere⟩
  · rintro ⟨_, hkept, fields, rfl, hhere⟩
    exact ⟨fields, hkept, hhere⟩

theorem dataAt_get?_iff {node : NodeId} :
    (document.dataAt node).get? name = some value ↔ document.FieldAt node name value := by
  rw [fieldAt_iff, dataAt]
  cases document.context.get? node.text with
  | none => simp
  | some held => simp [Value.field?]

/-- The entries of a context in order are the fields at the nodes. -/
theorem fieldAt_iff_mem (sorted : document.context.Sorted) {node : NodeId} :
    document.FieldAt node name value ↔
      ∃ held, (node.text, held) ∈ document.context ∧ held.field? name = some value := by
  rw [fieldAt_iff]
  refine exists_congr fun held => and_congr_left fun _ => ?_
  exact ⟨Fields.mem_of_get?, sorted.get?_of_mem⟩

/-- The data of the node in focus. -/
theorem focus_get?_iff :
    Fields.get? (focus.elim [] document.dataAt) name = some value ↔
      ∃ node, focus = some node ∧ document.FieldAt node name value := by
  cases focus with
  | none => simp
  | some node => simp [dataAt_get?_iff]

/-- What is kept under the nodes out of focus. -/
def outOfFocus (document : Instance) (focus : Option NodeId) : Fields Value :=
  document.context.filter fun entry => focus.map NodeId.text ≠ some entry.1

theorem mem_outOfFocus_iff {entry : String × Value} :
    entry ∈ document.outOfFocus focus ↔
      entry ∈ document.context ∧ focus.map NodeId.text ≠ some entry.1 := by
  simp [outOfFocus]

end Instance

theorem Value.WellFormed.sorted_fields {value : Value} (wellFormed : value.WellFormed) :
    Fields.Sorted (value.fields?.getD []) := by
  cases value with
  | object fields =>
      rw [WellFormed] at wellFormed
      exact wellFormed.1
  | _ => exact List.Pairwise.nil

namespace Instance

variable {document : Instance} {focus : Option NodeId} {roles : List RoleId} {name : String}
  {value : Value}

section WellFormed

variable (wellFormed : (Value.object document.context).WellFormed)

include wellFormed

theorem sorted_context : document.context.Sorted := wellFormed.sorted_fields

theorem sorted_dataAt (node : NodeId) : (document.dataAt node).Sorted := by
  rw [dataAt]
  cases hheld : document.context.get? node.text with
  | none => exact List.Pairwise.nil
  | some value => exact (wellFormed.field hheld).sorted_fields

/-- Apart from the roles, the node in focus is asked first, and then the others from the greatest
down. -/
theorem flatContext_get? (hdifferent : name ≠ "role_ids") :
    (document.flatContext focus roles).get? name =
      (Fields.get? (focus.elim [] document.dataAt) name).or
        ((document.outOfFocus focus).reverse.findSome? fun entry => entry.2.field? name) := by
  have hsorted : ∀ fields ∈
      (document.outOfFocus focus).map (fun entry => entry.2.fields?.getD []) ++
        [focus.elim [] document.dataAt], Fields.Sorted fields := by
    refine List.forall_mem_append.mpr ⟨?_, ?_⟩
    · refine List.forall_mem_map.mpr fun entry hmem => ?_
      have hkept := (sorted_context wellFormed).get?_of_mem (mem_outOfFocus_iff.mp hmem).1
      exact (wellFormed.field hkept).sorted_fields
    · refine List.forall_mem_singleton.mpr ?_
      cases focus with
      | none => exact List.Pairwise.nil
      | some node => exact sorted_dataAt wellFormed node
  unfold flatContext
  rw [Fields.get?_insert_of_ne _ _ hdifferent]
  refine (Fields.get?_foldl_extend hsorted [] name).trans ?_
  rw [List.reverse_append, List.reverse_singleton, List.findSome?_append, ← List.map_reverse,
    List.findSome?_map]
  simp [Function.comp_def, Value.field?]

/-- Fields that the node in focus does not have are at nodes out of focus. -/
theorem mem_outOfFocus_of_unfocused
    (hunfocused : ∀ center, focus = some center → ∀ other, ¬ document.FieldAt center name other)
    {entry : String × Value} (hmem : entry ∈ document.context)
    (hhere : entry.2.field? name = some value) : entry ∈ document.outOfFocus focus := by
  refine mem_outOfFocus_iff.mpr ⟨hmem, fun hcenter => ?_⟩
  obtain ⟨node, hfocus, hthere⟩ := Option.map_eq_some_iff.mp hcenter
  apply hunfocused node hfocus value
  exact (fieldAt_iff_mem (sorted_context wellFormed)).mpr ⟨entry.2, hthere ▸ hmem, hhere⟩

/-- Where the node in focus has no such field, the greatest of the other nodes that have it is the
greatest of all. -/
theorem greatest_outOfFocus_iff
    (hunfocused : ∀ center, focus = some center → ∀ other, ¬ document.FieldAt center name other) :
    ((document.outOfFocus focus).reverse.findSome? fun entry => entry.2.field? name) = some value ↔
      ∃ node, document.FieldAt node name value ∧
        ∀ later : NodeId, node.text < later.text →
          ∀ other, ¬ document.FieldAt later name other := by
  have sorted := sorted_context wellFormed
  have hothers : Fields.Sorted (document.outOfFocus focus) := sorted.filter _
  rw [hothers.findSome?_reverse_eq_some_iff]
  constructor
  · rintro ⟨entry, hmem, hhere, hlast⟩
    have hkept := (mem_outOfFocus_iff.mp hmem).1
    refine ⟨⟨entry.1⟩, (fieldAt_iff_mem sorted).mpr ⟨entry.2, hkept, hhere⟩, ?_⟩
    intro later habove other hthere
    obtain ⟨held, hmem, hthere⟩ := (fieldAt_iff_mem sorted).mp hthere
    have hbeside := mem_outOfFocus_of_unfocused wellFormed hunfocused hmem hthere
    have hnothing := hlast _ hbeside habove
    exact Option.some_ne_none other (hthere.symm.trans hnothing)
  · rintro ⟨node, hhere, hlast⟩
    obtain ⟨held, hmem, hhere⟩ := (fieldAt_iff_mem sorted).mp hhere
    refine ⟨_, mem_outOfFocus_of_unfocused wellFormed hunfocused hmem hhere, hhere, ?_⟩
    intro later hthere habove
    rw [Option.eq_none_iff_forall_ne_some]
    intro other hfound
    have hkept := (mem_outOfFocus_iff.mp hthere).1
    exact hlast ⟨later.1⟩ habove other ((fieldAt_iff_mem sorted).mpr ⟨later.2, hkept, hfound⟩)

theorem flatContext_get?_iff :
    (document.flatContext focus roles).get? name = some value ↔
      document.Shows focus roles name value := by
  by_cases hdifferent : name = "role_ids"
  · subst hdifferent
    rw [flatContext, Fields.get?_insert_self]
    constructor
    · intro hsame
      cases hsame
      exact .roles
    · intro shown
      cases shown with
      | roles => rfl
      | focused hdifferent => exact absurd rfl hdifferent
      | greatest hdifferent => exact absurd rfl hdifferent
  have hsilent : Fields.get? (focus.elim [] document.dataAt) name = none ↔
      ∀ center, focus = some center → ∀ other, ¬ document.FieldAt center name other := by
    rw [Option.eq_none_iff_forall_ne_some]
    simp only [ne_eq, focus_get?_iff, not_exists, not_and]
    exact ⟨fun hnone center hfocus other => hnone other center hfocus,
      fun hnone other center hfocus => hnone center hfocus other⟩
  rw [flatContext_get? wellFormed hdifferent, Option.or_eq_some_iff, focus_get?_iff, hsilent]
  constructor
  · rintro (⟨node, hfocus, hhere⟩ | ⟨hunfocused, hfound⟩)
    · exact .focused hdifferent hfocus hhere
    · obtain ⟨node, hhere, hlast⟩ := (greatest_outOfFocus_iff wellFormed hunfocused).mp hfound
      exact .greatest hdifferent hunfocused hhere hlast
  · intro shown
    cases shown with
    | roles => exact absurd rfl hdifferent
    | focused _ hfocus hhere => exact .inl ⟨_, hfocus, hhere⟩
    | greatest _ hunfocused hhere hlast =>
        have hfound := (greatest_outOfFocus_iff wellFormed hunfocused).mpr ⟨_, hhere, hlast⟩
        exact .inr ⟨hunfocused, hfound⟩

/-- There is nothing but the roles and the fields that are somewhere in the context. -/
theorem mem_keys_flatContext_iff :
    name ∈ (document.flatContext focus roles).keys ↔
      name = "role_ids" ∨ ∃ node value, document.FieldAt node name value := by
  rw [← Fields.get?_isSome_iff, Option.isSome_iff_exists]
  simp only [flatContext_get?_iff wellFormed]
  constructor
  · rintro ⟨value, shown⟩
    cases shown with
    | roles => exact .inl rfl
    | focused _ _ hhere => exact .inr ⟨_, _, hhere⟩
    | greatest _ _ hhere _ => exact .inr ⟨_, _, hhere⟩
  · intro hsomewhere
    by_cases hdifferent : name = "role_ids"
    · subst hdifferent
      exact ⟨_, .roles⟩
    obtain ⟨node, value, hhere⟩ := hsomewhere.resolve_left hdifferent
    by_cases hunfocused : ∀ center, focus = some center →
        ∀ other, ¬ document.FieldAt center name other
    · obtain ⟨held, hmem, hthere⟩ := (fieldAt_iff_mem (sorted_context wellFormed)).mp hhere
      have hbeside := mem_outOfFocus_of_unfocused wellFormed hunfocused hmem hthere
      have hfound : ((document.outOfFocus focus).reverse.findSome? fun entry =>
          entry.2.field? name).isSome := by
        rw [List.findSome?_isSome_iff]
        exact ⟨_, List.mem_reverse.mpr hbeside, Option.isSome_of_eq_some hthere⟩
      obtain ⟨result, hfound⟩ := Option.isSome_iff_exists.mp hfound
      obtain ⟨greatest, hhere, hlast⟩ := (greatest_outOfFocus_iff wellFormed hunfocused).mp hfound
      exact ⟨result, .greatest hdifferent hunfocused hhere hlast⟩
    · simp only [not_forall, not_not] at hunfocused
      obtain ⟨center, hfocus, other, hhere⟩ := hunfocused
      exact ⟨other, .focused hdifferent hfocus hhere⟩

end WellFormed

theorem sorted_flatContext (document : Instance) (focus : Option NodeId) (roles : List RoleId) :
    (document.flatContext focus roles).Sorted :=
  (Fields.sorted_foldl_extend _ List.Pairwise.nil).insert _ _

/-- Nothing of a document is seen but its context. -/
theorem flatContext_congr {other : Instance} (hsame : document.context = other.context) :
    document.flatContext focus roles = other.flatContext focus roles := by
  unfold flatContext dataAt
  rw [hsame]

end Instance

/-! ## Data in the order in which it is recorded -/

/-- Data that is recorded for a node. -/
structure Recording where
  node : NodeId
  data : Fields Value
  moment : Timestamp

/-- The data that was recorded last for a node. -/
def Recording.last? (recordings : List Recording) (node : NodeId) : Option (Fields Value) :=
  (recordings.reverse.find? fun recording => recording.node = node).map Recording.data

theorem Recording.last?_cons (first : Recording) (rest : List Recording) (node : NodeId) :
    last? (first :: rest) node =
      (last? rest node).or (if first.node = node then some first.data else none) := by
  rw [last?, last?, List.reverse_cons, List.find?_append, Option.map_or]
  by_cases hsame : first.node = node <;> simp [hsame]

namespace Instance

/-- The document after data has been recorded time and again. -/
def recordAll (document : Instance) (recordings : List Recording) : Instance :=
  recordings.foldl (fun document recording =>
    document.record recording.node recording.data recording.moment) document

variable {document : Instance} {recordings : List Recording}

/-- The context keeps the last data for each node. -/
theorem recordAll_get? (document : Instance) (recordings : List Recording) (node : NodeId) :
    (document.recordAll recordings).context.get? node.text =
      ((Recording.last? recordings node).map Value.object).or
        (document.context.get? node.text) := by
  induction recordings generalizing document with
  | nil => rfl
  | cons first rest ih =>
      have hname : node.text = first.node.text ↔ first.node = node :=
        ⟨fun hsame => congrArg NodeId.mk hsame.symm, fun hsame => congrArg NodeId.text hsame.symm⟩
      have hkept : (document.record first.node first.data first.moment).context.get? node.text =
          if first.node = node then some (.object first.data)
          else document.context.get? node.text := by
        simp only [record, Fields.get?_insert, hname]
      refine (ih _).trans ?_
      rw [hkept, Recording.last?_cons, Option.map_or, Option.or_assoc]
      split <;> rfl

theorem sorted_recordAll (sorted : document.context.Sorted) (recordings : List Recording) :
    (document.recordAll recordings).context.Sorted := by
  induction recordings generalizing document with
  | nil => exact sorted
  | cons first rest ih => exact ih (sorted.insert _ _)

/-- Documents that keep the same under every node are seen the same, whatever has led there. -/
theorem flatContext_recordAll_congr {other : Instance} (sorted : document.context.Sorted)
    (sorted' : other.context.Sorted) {first second : List Recording}
    (hsame : ∀ node : NodeId, (document.recordAll first).context.get? node.text =
      (other.recordAll second).context.get? node.text)
    (focus : Option NodeId) (roles : List RoleId) :
    (document.recordAll first).flatContext focus roles =
      (other.recordAll second).flatContext focus roles := by
  apply flatContext_congr
  exact (sorted_recordAll sorted first).ext (sorted_recordAll sorted' second)
    fun name => hsame ⟨name⟩

theorem wellFormed_recordAll (wellFormed : (Value.object document.context).WellFormed)
    (hdata : ∀ recording ∈ recordings, (Value.object recording.data).WellFormed) :
    (Value.object (document.recordAll recordings).context).WellFormed := by
  induction recordings generalizing document with
  | nil => exact wellFormed
  | cons first rest ih =>
      obtain ⟨hhere, hothers⟩ := List.forall_mem_cons.mp hdata
      have hnext : (Value.object
          (document.record first.node first.data first.moment).context).WellFormed := by
        rw [Value.WellFormed, Value.wellFormedFields_iff] at wellFormed ⊢
        refine ⟨wellFormed.1.insert _ _, fun entry hmem => ?_⟩
        rcases Fields.mem_insert hmem with rfl | hold
        · exact hhere
        · exact wellFormed.2 entry hold
      exact ih hnext hothers

end Instance

/-- What validators see of a document, whatever is in its context, is a map in which the roles of
the caller stand under `role_ids`. Under any other name it has the field of the node in focus and,
if that has none, the field of the greatest node that has one; it has no other names. It depends on
what the document keeps under each node in the end: two documents that come to keep the same,
however data is recorded, are seen the same; and so is a document in which data is recorded in two
orders, with the same data last for each node. -/
theorem validators_see_final_context (document : Instance)
    (wellFormed : (Value.object document.context).WellFormed) (focus : Option NodeId)
    (roles : List RoleId) :
    (document.flatContext focus roles).Sorted ∧
    (∀ name value, (document.flatContext focus roles).get? name = some value ↔
      document.Shows focus roles name value) ∧
    (∀ name, name ∈ (document.flatContext focus roles).keys ↔
      name = "role_ids" ∨ ∃ node value, document.FieldAt node name value) ∧
    (∀ (other : Instance) (first second : List Recording), other.context.Sorted →
      (∀ node : NodeId, (document.recordAll first).context.get? node.text =
        (other.recordAll second).context.get? node.text) →
      (document.recordAll first).flatContext focus roles =
        (other.recordAll second).flatContext focus roles) ∧
    ∀ first second : List Recording,
      (∀ node, Recording.last? first node = Recording.last? second node) →
      (document.recordAll first).flatContext focus roles =
        (document.recordAll second).flatContext focus roles := by
  have sorted : document.context.Sorted := Instance.sorted_context wellFormed
  refine ⟨document.sorted_flatContext focus roles, ?_, ?_, ?_, ?_⟩
  · exact fun _ _ => Instance.flatContext_get?_iff wellFormed
  · exact fun _ => Instance.mem_keys_flatContext_iff wellFormed
  · intro other first second sorted' hsame
    exact Instance.flatContext_recordAll_congr sorted sorted' hsame focus roles
  · intro first second hsame
    apply Instance.flatContext_recordAll_congr sorted sorted
    intro node
    rw [Instance.recordAll_get?, Instance.recordAll_get?, hsame]

/-- A purchase with a size at two nodes, and with a field that claims to be the roles: the size at
the node in focus is seen, without a focus that at the greater node, and no data of a node that is
no object; the roles are those of the caller; and it does not matter which data is recorded
first. -/
theorem validators_see_final_context_purchase :
    let document : Instance :=
      { Purchase.atRequest.document with context := [("archive", .string "size")] }
    let requested : Recording := ⟨Purchase.request.id,
      [("role_ids", .string "admin"), ("size", .string "small")], Purchase.noon⟩
    let approved : Recording := ⟨Purchase.approval.id, [("size", .string "large")], Purchase.noon⟩
    let final := document.recordAll [requested, approved]
    let roles : List RoleId := [⟨"clerk"⟩]
    (Value.object final.context).WellFormed ∧
      (∃ size, final.Shows (some Purchase.approval.id) roles "size" size ∧
        size.text? = some "large") ∧
      (∃ size, final.Shows none roles "size" size ∧ size.text? = some "small") ∧
      (final.flatContext none roles).get? "role_ids" = some (.list [.string "clerk"]) ∧
      (¬ ∃ node value, final.FieldAt node "archive" value) ∧
      final.flatContext none roles =
        (document.recordAll [approved, requested]).flatContext none roles := by
  intro document requested approved final roles
  have wellFormed : (Value.object document.context).WellFormed := by
    simp [document, Value.WellFormed, Value.WellFormedFields, Fields.Sorted]
  have hnamed : Fields.Sorted [("role_ids", Value.string "admin"), ("size", .string "small")] :=
    List.pairwise_pair.mpr (by decide)
  have hsized : Fields.Sorted [("size", Value.string "large")] := List.pairwise_singleton _ _
  have hdata : ∀ recording ∈ [requested, approved], (Value.object recording.data).WellFormed := by
    simp [requested, approved, Value.WellFormed, Value.WellFormedFields, hnamed, hsized]
  have wellFormed' := Instance.wellFormed_recordAll wellFormed hdata
  obtain ⟨-, hfocused, -, -, -⟩ :=
    validators_see_final_context final wellFormed' (some Purchase.approval.id) roles
  obtain ⟨-, hshows, hkeys, -, -⟩ := validators_see_final_context final wellFormed' none roles
  obtain ⟨-, -, -, -, horders⟩ := validators_see_final_context document wellFormed none roles
  refine ⟨wellFormed', ?_, ?_, (hshows _ _).mpr .roles, ?_, ?_⟩
  · have hread : ((final.flatContext (some Purchase.approval.id) roles).get? "size").bind
        Value.text? = some "large" := by decide +kernel
    obtain ⟨size, hfound, htext⟩ := Option.bind_eq_some_iff.mp hread
    exact ⟨size, (hfocused _ _).mp hfound, htext⟩
  · have hread : ((final.flatContext none roles).get? "size").bind Value.text? = some "small" := by
      decide +kernel
    obtain ⟨size, hfound, htext⟩ := Option.bind_eq_some_iff.mp hread
    exact ⟨size, (hshows _ _).mp hfound, htext⟩
  · have habsent : "archive" ∉ (final.flatContext none roles).keys := by decide +kernel
    exact fun hsomewhere => habsent ((hkeys _).mpr (.inr hsomewhere))
  · apply horders
    intro node
    have hapart : approved.node ≠ requested.node := by decide
    simp only [Recording.last?_cons]
    by_cases hsame : requested.node = node
    · subst hsame
      simp [hapart]
    · simp [hsame]

end FormFlow
