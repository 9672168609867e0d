-- The second run of a batch as a whole. The items have the values again that
-- they were checked with, and are compared with the rows that one search finds.
-- An item may be compared with its own row, so the check lets them pass once more
-- and the insert changes nothing.
import EntityStore.Proofs.Batch.Checking
import EntityStore.Proofs.Batch.Repeating
import EntityStore.Proofs.Store.Holding

namespace EntityStore.Batch

open Call (Ends Leads)
open Relational (inMemory Holds)

variable {entity : Entity} {settings : Settings} {t : Tables.Table} {columns : Columns}
  {ts : Tables} {b : Batch} {idField : String} {docs found : List (Fields Json)} {calm : Prop}

/-- These are the stored records that some items are compared with. -/
def Compared (e : Entity) (settings : Settings) (columns : Columns) (t : Tables.Table)
    (docs found : List (Fields Json)) : Prop :=
  match candidateSearch? e docs with
  | none => found = []
  | some c => ∃ p, ((inMemory e settings).scope columns).groups c.filters = .ok p ∧
      found = Relational.recordsPassing t p

/-- The items pass the uniqueness check, if there is one. -/
def Checked (b : Batch) (e : Entity) (settings : Settings) (columns : Columns) (t : Tables.Table)
    (idField : String) (docs : List (Fields Json)) : Prop :=
  b.direct = false → ∃ found, Compared e settings columns t docs found ∧
    Passes e idField docs found

theorem Compared.unique {other : List (Fields Json)}
    (h : Compared entity settings columns t docs found)
    (hother : Compared entity settings columns t docs other) : found = other := by
  unfold Compared at h hother
  split at h
  · rename_i hnone
    rw [hnone] at hother
    exact h.trans hother.symm
  · rename_i c hsome
    rw [hsome] at hother
    obtain ⟨p, hp, rfl⟩ := h
    obtain ⟨q, hq, rfl⟩ := hother
    cases hp.symm.trans hq
    rfl

/-- Items for which the same search is made are compared with the rows of
another table that pass, too. Those of them that the first table has are what
the first items were compared with. -/
theorem Compared.of_search {others : List (Fields Json)}
    (h : Compared entity settings columns t docs found)
    (hsearch : candidateSearch? entity others = candidateSearch? entity docs)
    (next : Tables.Table) :
    ∃ again, Compared entity settings columns next others again ∧
      ∀ c ∈ again, ∃ row ∈ next.rows, c = Row.toJson (Tables.bareColumns row) ∧
        (row ∈ t.rows → c ∈ found) := by
  unfold Compared at h ⊢
  rw [hsearch]
  split at h
  · exact ⟨[], rfl, nofun⟩
  · obtain ⟨p, hp, rfl⟩ := h
    refine ⟨_, ⟨p, hp, rfl⟩, fun c hc => ?_⟩
    obtain ⟨row, hrow, rfl⟩ := List.mem_map.mp hc
    obtain ⟨hmem, hpasses⟩ := List.mem_filter.mp hrow
    exact ⟨row, hmem, rfl, fun hold => List.mem_map_of_mem (List.mem_filter.mpr ⟨hold, hpasses⟩)⟩

/-- A check that is passed has compared the items with these records. -/
theorem leads_checked (b : Batch) (idField : String) (docs : List (Fields Json)) :
    Leads (Holds calm entity t columns ts)
      (b.checkUnlessDirect (inMemory entity settings).store idField docs)
      (fun _ s => b.Checked entity settings columns t idField docs ∧
        Holds calm entity t columns ts s) (fun _ => True) := by
  unfold checkUnlessDirect
  split
  · rename_i hdirect
    refine Call.leads_pure fun s hs => ⟨fun hnot => ?_, hs⟩
    rw [hdirect] at hnot
    cases hnot
  · refine Ends.weaken (ends_checkUnique (R := fun found s =>
      Compared entity settings columns t docs found ∧ Holds calm entity t columns ts s)
      (F := fun _ _ => True) (fun c hc => ?_) (fun hnone s hs => ?_) fun _ _ _ _ _ => trivial) ?_
      fun _ _ h => h
    · obtain ⟨g, rfl⟩ : ∃ g, c = .ofGroup g := ⟨_, (candidateSearch?_eq_some hc).2⟩
      refine (Relational.leads_ofGroup_passing g).weaken ?_ fun _ h => h
      rintro out s ⟨hrows, hs⟩
      refine ⟨?_, hs⟩
      have hsearch : candidateSearch? entity docs = some (.ofGroup g) := hc
      rw [Compared, hsearch]
      exact hrows
    · refine ⟨?_, hs⟩
      have hsearch : candidateSearch? entity docs = none := hnone
      rw [Compared, hsearch]
    · rintro _ s ⟨found, hpasses, hcompared, hs⟩
      exact ⟨fun _ => ⟨found, hcompared, hpasses⟩, hs⟩

/-- Items that pass the check are not refused, unless it meets a fault. -/
theorem leads_of_checked (h : b.Checked entity settings columns t idField docs) :
    Leads (Holds calm entity t columns ts)
      (b.checkUnlessDirect (inMemory entity settings).store idField docs)
      (fun _ => Holds calm entity t columns ts) (fun _ => ¬ calm) := by
  unfold checkUnlessDirect
  split
  · exact Call.leads_pure fun _ hs => hs
  · rename_i hdirect
    obtain ⟨compared, hcompared, hpasses⟩ := h (Bool.eq_false_iff.mpr hdirect)
    refine Ends.weaken (ends_checkUnique (R := fun found s =>
      Compared entity settings columns t docs found ∧ Holds calm entity t columns ts s)
      (F := fun _ _ => ¬ calm) (fun c hc => ?_) (fun hnone s hs => ?_) fun found _ s hnot hfound => ?_)
      (fun _ s hs => ?_) fun _ _ h => h
    · have hsearch : candidateSearch? entity docs = some c := hc
      obtain ⟨g, rfl⟩ : ∃ g, c = .ofGroup g := ⟨_, (candidateSearch?_eq_some hsearch).2⟩
      obtain ⟨p, hgroups, -⟩ : ∃ p, ((inMemory entity settings).scope columns).groups [g] = .ok p ∧
          compared = Relational.recordsPassing t p := by
        rw [Compared, hsearch] at hcompared
        exact hcompared
      refine (Relational.leads_ofGroup hgroups).weaken ?_ fun _ h => h
      rintro out s ⟨hrows, hs⟩
      refine ⟨?_, hs⟩
      rw [Compared, hsearch]
      exact ⟨p, hgroups, hrows⟩
    · refine ⟨?_, hs⟩
      have hsearch : candidateSearch? entity docs = none := hnone
      rw [Compared, hsearch]
    · rw [hfound.1.unique hcompared] at hnot
      exact absurd hpasses hnot
    · obtain ⟨found, -, -, hs⟩ := hs
      exact hs

end EntityStore.Batch

namespace EntityStore.Batch

open Call (Ends Leads)
open Flat (IsName)
open Relational (inMemory Holds knownColumns)
open Tables (valueAt)

variable {entity : Entity} {settings : Settings} {t next : Tables.Table} {columns : Columns}
  {ts : Tables} {b : Batch} {k : Kind} {doc : Fields Json} {row : Row} {f : String} {last : Int}

/-! ## Items that are compared again -/

/-- The fields that have to be unique, and those of their scope, are exact. The
identity is none of them where the table gives it and the batch goes by
another field. -/
def ComparesExactly (b : Batch) (e : Entity) (settings : Settings) (columns : Columns)
    (t : Tables.Table) : Prop :=
  ∀ f, f ∈ e.uniqueFields ∨ f ∈ e.uniqueScope → b.Exact e settings columns t f ∧
    (f = t.shape.primaryKey → f = e.idField → f = b.meetingField e)

/-- The value of an item as it is written is that of its row as it comes in. -/
theorem Fits.valueOf_written (hfits : b.Fits entity (b.met entity columns t) t)
    (hdoc : doc ∈ b.items) (settings : Settings) (f : String) :
    valueOf (b.written entity (b.met entity columns t) doc) f =
      (valueAt (b.enters entity settings columns t doc) f).unwrap := by
  rw [hfits.valueAt_comesIn hdoc, Plan.Scope.unwrap_bind]
  rfl

theorem valueOf_record (hname : IsName f) (row : Row) :
    valueOf (Row.toJson (Tables.bareColumns row)) f = .ofJson (valueAt row f).toJson := by
  rw [valueOf, Relational.get?_record hname, valueAt]
  cases row.get? f with
  | none => rfl
  | some w => rfl

theorem Orderly.exact_key (h : Orderly b entity settings columns t k) :
    b.Exact entity settings columns t (b.meetingField entity) := by
  obtain ⟨key, hkey, hcolumns⟩ := h.keyed
  exact h.exact key hkey _ (hcolumns ▸ List.mem_singleton_self _)

namespace Orderly

variable (h : Orderly b entity settings columns t k)
  (hfits : b.Fits entity (b.met entity columns t) t)

include h hfits

/-- Under an exact field the record of an item's row has the value that the
item was written with. -/
theorem valueOf_landed (hexact : b.Exact entity settings columns t f)
    (hprimary : f = t.shape.primaryKey → f = entity.idField → f = b.meetingField entity)
    (hdoc : doc ∈ b.items) (hlanded : b.Landed entity settings columns t last doc row)
    (hf : f ∈ Fields.allKeys b.items ∨ f = entity.idField) :
    valueOf (Row.toJson (Tables.bareColumns row)) f =
      valueOf (b.written entity (b.met entity columns t) doc) f := by
  have hname : IsName f := hf.elim (h.names f) fun hid => hid ▸ h.identity
  rw [valueOf_record hname, hfits.valueOf_written hdoc settings]
  by_cases hne : f = b.meetingField entity
  · have hhas := h.items doc hdoc
    rw [hne, Tables.valueAt_of_some (h.isFor_of_landed hfits hdoc hlanded),
      Tables.valueAt_of_some (h.get?_enters_key hfits hdoc), hhas.ofJson_toJson, hhas.unwrap]
  · have hother : f ≠ t.shape.primaryKey := by
      rintro rfl
      have hid : entity.idField = t.shape.primaryKey := hf.elim
        (fun hunion => (h.carried hunion).resolve_left (Ne.symm hne)) Eq.symm
      exact hne (hprimary rfl hid.symm)
    obtain ⟨x, hsound, hx⟩ : ∃ x : Option Json, (∀ j, x = some j → j.isSound = true) ∧
        valueAt (b.enters entity settings columns t doc) f = _ := h.exists_sound hfits hdoc hf hne
    rw [h.valueAt_landed hfits hexact hdoc hlanded hf hne hother, hx,
      Plan.Scope.ofJson_toJson_bind hsound, Plan.Scope.unwrap_bind]

theorem valueOf_written_key (hdoc : doc ∈ b.items) :
    valueOf (b.written entity (b.met entity columns t) doc) (b.meetingField entity) =
      valueOf doc (b.meetingField entity) := by
  rw [hfits.valueOf_written hdoc {}, Tables.valueAt_of_some (h.get?_enters_key hfits hdoc),
    (h.items doc hdoc).unwrap]

variable (hs : b.Settles entity settings columns t k next) (hlocks : b.KeepsLocks entity t)

include hs hlocks

theorem valueOf_again (hexact : b.Exact entity settings columns t f)
    (hprimary : f = t.shape.primaryKey → f = entity.idField → f = b.meetingField entity)
    (hdoc : doc ∈ b.items) :
    valueOf (b.written entity (b.met entity columns next) doc) f =
      valueOf (b.written entity (b.met entity columns t) doc) f := by
  obtain ⟨row, hrow, hlanded⟩ := hs.landed doc hdoc
  rw [(h.fits_again hfits hs).valueOf_written hdoc settings, hfits.valueOf_written hdoc settings,
    h.enters_again hfits hs hlocks hexact hprimary hdoc hrow hlanded]

/-- An item that comes in again clashes with no row that another item has come
to, since the two would have clashed before. -/
theorem eq_of_clashes (hcompares : b.ComparesExactly entity settings columns t)
    (hf : f ∈ entity.uniqueFields)
    (hdistinct : Distinct entity f (b.items.map (b.written entity (b.met entity columns t))))
    {other : Fields Json} (hother : other ∈ b.items) (hdoc : doc ∈ b.items)
    (hlanded : b.Landed entity settings columns t last other row)
    (hpresent : (valueOf (b.written entity (b.met entity columns next) doc) f).isNull = false)
    (hsame : ∀ g ∈ f :: entity.uniqueScope, sameMember (Row.toJson (Tables.bareColumns row))
      (b.written entity (b.met entity columns next) doc) g = true) : other = doc := by
  by_contra hne
  have hcompared : ∀ g ∈ f :: entity.uniqueScope, b.Exact entity settings columns t g ∧
      (g = t.shape.primaryKey → g = entity.idField → g = b.meetingField entity) := by
    rw [List.forall_mem_cons]
    exact ⟨hcompares f (.inl hf), fun g hg => hcompares g (.inr hg)⟩
  have hequal : ∀ g ∈ f :: entity.uniqueScope,
      (valueOf (b.written entity (b.met entity columns t) other) g ==
        valueOf (b.written entity (b.met entity columns t) doc) g) = true := by
    intro g hg
    obtain ⟨hexact, hprimary⟩ := hcompared g hg
    by_cases hmem : g ∈ Fields.allKeys b.items ∨ g = entity.idField
    · rw [← h.valueOf_landed hfits hexact hprimary hother hlanded hmem,
        ← h.valueOf_again hfits hs hlocks hexact hprimary hdoc]
      exact hsame g hg
    · obtain ⟨hunion, hid⟩ := not_or.mp hmem
      rw [valueOf, valueOf, h.get?_written_of_not_mem hother hunion hid,
        h.get?_written_of_not_mem hdoc hunion hid]
      exact Value.beq_self _
  obtain ⟨hexact, hprimary⟩ := hcompared f List.mem_cons_self
  rw [h.valueOf_again hfits hs hlocks hexact hprimary hdoc] at hpresent
  refine hdistinct.exists_ne hother hdoc hne ?_ hpresent hequal
  exact (Value.isNull_of_beq (hequal f List.mem_cons_self)).trans hpresent

/-- Items that have passed the check pass it again when they come in again. -/
theorem checked_again
    (hcompares : b.direct = false → b.ComparesExactly entity settings columns t)
    (hchecked : b.Checked entity settings columns t (b.meetingField entity)
      (b.items.map (b.written entity (b.met entity columns t)))) :
    b.Checked entity settings columns next (b.meetingField entity)
      (b.items.map (b.written entity (b.met entity columns next))) := by
  intro hdirect
  have hcompares := hcompares hdirect
  obtain ⟨found, hcompared, hpasses⟩ := hchecked hdirect
  have hunique : ∀ doc ∈ b.items, ∀ f, f ∈ entity.uniqueFields ∨ f ∈ entity.uniqueScope →
      valueOf (b.written entity (b.met entity columns next) doc) f =
        valueOf (b.written entity (b.met entity columns t) doc) f := fun doc hdoc f hf =>
    h.valueOf_again hfits hs hlocks (hcompares f hf).1 (hcompares f hf).2 hdoc
  have hkey : ∀ doc ∈ b.items,
      valueOf (b.written entity (b.met entity columns next) doc) (b.meetingField entity) =
        valueOf (b.written entity (b.met entity columns t) doc) (b.meetingField entity) :=
    fun doc hdoc => h.valueOf_again hfits hs hlocks h.exact_key (fun _ _ => rfl) hdoc
  obtain ⟨again, hagain, hrows⟩ := hcompared.of_search
    (candidateSearch?_congr fun doc hdoc f hf => hunique doc hdoc f (.inl hf)) next
  refine ⟨again, hagain, fun f hf => ?_, ?_⟩
  · refine (hpasses.distinct f hf).congr fun doc hdoc => ?_
    rw [List.forall_mem_cons]
    exact ⟨hunique doc hdoc f (.inl hf), fun g hg => hunique doc hdoc g (.inr hg)⟩
  · rw [List.forall_mem_map]
    rintro doc hdoc f hf hclash
    obtain ⟨hpresent, c, hc, hclashes⟩ := hclash
    obtain ⟨row, hrow, rfl, hold⟩ := hrows c hc
    obtain ⟨⟨hfield, hscope⟩, hself⟩ : (sameMember _ _ f = true ∧
        (entity.uniqueScope.all (sameMember _ _)) = true) ∧ (!isSelf _ _ _) = true := by
      simpa only [clashes, Bool.and_eq_true] using hclashes
    rcases hs.origin row hrow with ⟨other, hother, hlanded⟩ | hrowOld
    · have hsame : ∀ g ∈ f :: entity.uniqueScope, sameMember (Row.toJson (Tables.bareColumns row))
          (b.written entity (b.met entity columns next) doc) g = true :=
        List.forall_mem_cons.mpr ⟨hfield, List.all_eq_true.mp hscope⟩
      have hvalue : (valueOf (b.written entity (b.met entity columns next) doc) f).isNull = false := by
        simpa [isSome_present?] using hpresent
      obtain rfl := h.eq_of_clashes hfits hs hlocks hcompares hf (hpasses.distinct f hf) hother hdoc
        hlanded hvalue hsame
      have hown := (h.items other hother).isNull
      rw [isSelf, sameMember, isSome_present?, hkey other hother, h.valueOf_landed hfits h.exact_key
        (fun _ _ => rfl) hother hlanded (.inl (h.mem_allKeys hother)),
        h.valueOf_written_key hfits hother, hown, Value.beq_self] at hself
      cases hself
    · refine hpasses.alone _ (List.mem_map_of_mem hdoc) f hf
        (Clashes.congr ⟨hpresent, _, hold hrowOld, hclashes⟩ ?_)
      simp only [List.forall_mem_cons]
      exact ⟨(hkey doc hdoc).symm, (hunique doc hdoc f (.inl hf)).symm,
        fun g hg => (hunique doc hdoc g (.inr hg)).symm⟩

end Orderly

/-! ## Second runs -/

theorem Orderly.leads_upsert_again (h : Orderly b entity settings columns t k)
    (halone : b.Alone entity settings columns t) (hlocks : b.KeepsLocks entity t)
    (hcompares : b.direct = false → b.ComparesExactly entity settings columns t)
    (hfields : ∃ f ∈ Fields.allKeys b.items, f ≠ b.meetingField entity)
    (hnames : ∀ c ∈ t.shape.columns.keys, IsName c)
    (hcover : ∀ c ∈ t.shape.columns.keys, Fields.contains columns c = true)
    (hupserted : Upserted b entity settings columns (b.met entity columns t) t next)
    (hchecked : b.Checked entity settings columns t (b.meetingField entity)
      (b.items.map (b.written entity (b.met entity columns t))))
    (hroom : next.nextId + b.items.length ≤ Value.maxInt) :
    Leads (Holds True entity next columns ts) (b.upsert (inMemory entity settings).store)
      (fun _ s => ∃ nextId, s.timed.state.tables =
        Tables.Engine.store ts entity.storage { next with nextId := nextId }) (fun _ => False) := by
  have hfits := hupserted.fits
  have hitems : b.items ≠ [] := by
    obtain ⟨f, hf, -⟩ := hfields
    obtain ⟨doc, hdoc, -⟩ := Fields.mem_allKeys.mp hf
    exact List.ne_nil_of_mem hdoc
  have hlast : next.nextId < Value.maxInt := by
    have hlength := List.length_pos_of_ne_nil hitems
    omega
  have hs := h.settles halone hupserted hlast
  have hfits' := h.fits_again hfits hs
  rw [← hs.shape] at hnames hcover
  have hknown : ∀ f ∈ next.shape.columns.keys,
      (columns.isEmpty || Fields.contains columns f) = true := fun f hf =>
    Bool.or_eq_true_iff.mpr (.inr (hcover f hf))
  have hkey : b.meetingField entity ∈ next.shape.columns.keys := by
    obtain ⟨doc, hdoc⟩ := List.exists_mem_of_ne_nil _ hitems
    exact Fields.contains_iff.mp
      (hfits'.contains hdoc (Batch.mem_keys_written h.hasKeys hdoc))
  have hfound : Leads (Holds True entity next columns ts)
      (b.found (inMemory entity settings).store) _ (fun _ => False) :=
    (Relational.leads_findWith fun _ => ⟨hnames _ hkey, hknown _ hkey⟩).weakenError
      fun _ hnot => hnot trivial
  refine Ends.weaken (ends_upsert_checked (C := fun _ => True) (F := fun _ _ => False)
    (Q := fun _ _ s => ∃ nextId, s.timed.state.tables =
      Tables.Engine.store ts entity.storage { next with nextId := nextId })
    ?_ hfound ?_ ?_) ?_ fun _ _ hnot => hnot
  · rintro e s (hnone | hnone) -
    · exact hitems hnone
    · exact hnone h.hasKeys
  · rintro _ rfl
    exact (leads_of_checked (h.checked_again hfits hs hlocks hcompares hchecked)).weaken
      (fun _ _ hs => ⟨trivial, hs⟩) fun _ hnot => hnot trivial
  · rintro _ - rfl
    obtain ⟨n, last, hinsert⟩ := h.inserts_again hfits hs hlocks halone hroom hitems hfields
    refine (Relational.leads_write hnames _ _ _).weaken ?_ ?_
    · rintro _ s ⟨m, other, hother, -, hafter⟩
      cases hinsert.symm.trans hother
      exact ⟨last, hafter.tables⟩
    · rintro s ⟨-, ⟨f, hf, hunknown⟩ | ⟨fault, hfault⟩⟩
      · rw [hknown f (Fields.contains_iff.mp (hfits' f hf))] at hunknown
        cases hunknown
      · cases hinsert.symm.trans hfault
  · rintro _ s ⟨-, _, _, -, -, hafter, -⟩
    exact hafter

/-- A batch that was upserted changes no row when it is upserted again. It goes
by a column with a key of its own and has other fields, too. Items without a
primary key use up numbers of 64 bits in the second run, too, so the table has to
have one left for each of them. -/
theorem an_upsert_that_is_repeated_changes_no_row (settings : Settings)
    (s : Relational.State Tables.Engine) (hcalm : s.timed.state.faults = [])
    (hfind : s.timed.state.tables.find entity.storage = .ok t)
    (hnames : ∀ c ∈ t.shape.columns.keys, IsName c)
    (hcover : ∀ c ∈ t.shape.columns.keys,
      Fields.contains (knownColumns entity t s) c = true)
    (horderly : Orderly b entity settings (knownColumns entity t s) t k)
    (halone : b.Alone entity settings (knownColumns entity t s) t)
    (hlocks : b.KeepsLocks entity t)
    (hcompares : b.direct = false →
      b.ComparesExactly entity settings (knownColumns entity t s) t)
    (hfields : ∃ f ∈ Fields.allKeys b.items, f ≠ b.meetingField entity)
    {records : List Record} {after : Relational.State Tables.Engine}
    (hon : (b.upsert (inMemory entity settings).store).on s = (.ok records, after))
    (hroom : ∀ next, after.timed.state.tables.find entity.storage = .ok next →
      next.nextId + b.items.length ≤ Value.maxInt) :
    ∃ again later, (b.upsert (inMemory entity settings).store).on after = (.ok again, later) ∧
      ∀ table, later.timed.state.rows table = after.timed.state.rows table := by
  have hs : Holds True entity t (knownColumns entity t s) s.timed.state.tables s :=
    ⟨⟨rfl, fun _ => hcalm⟩, hfind, rfl⟩
  have hleads : Leads (fun s' => s' = s) (b.upsert (inMemory entity settings).store) _
      (fun _ => True) :=
    leads_upsert_met_of (fun _ => leads_checked b _ _) hnames hcover hs
  obtain ⟨hchecked, next, hupserted, hafter, -⟩ := hleads.of_ok rfl hon
  obtain ⟨again, later, hagain, nextId, htables⟩ := (horderly.leads_upsert_again halone hlocks
    hcompares hfields hnames hcover hupserted hchecked
      (hroom next (hafter.tables ▸ hafter.find))).exists_ok hafter
      fun _ hnot => hnot
  refine ⟨again, later, hagain, fun table => ?_⟩
  rw [Tables.Engine.rows, Tables.Engine.rows, htables, hafter.tables, Tables.Engine.store,
    Tables.Engine.store, Fields.get?_insert, Fields.get?_insert]
  by_cases htable : table = entity.storage
  · rw [if_pos htable, if_pos htable]
    rfl
  · rw [if_neg htable]

/-- A product comes in as a new one, and is found by its key when it comes in
again. -/
theorem a_product_is_upserted_twice :
    let entity : Entity :=
      { name := "product", storage := "products", uniqueFields := ["sku"] }
    let b : Batch :=
      { items := [[("sku", .str "A"), ("name", .str "Oak")]], keyField := some "sku" }
    let t : Tables.Table := {
      shape := .make "products" "id" [("sku", .text), ("name", .text)] [⟨"uniq_sku", ["sku"]⟩] }
    let s : Relational.State Tables.Engine := .initial {} { tables := [("products", t)] }
    let upsert := b.upsert (inMemory entity {}).store
    ∃ records after again later, upsert.on s = (.ok records, after) ∧
      upsert.on after = (.ok again, later) ∧
      ∀ table, later.timed.state.rows table = after.timed.state.rows table := by
  intro entity b t s upsert
  obtain ⟨records, after, hon⟩ : ∃ records after, upsert.on s = (.ok records, after) :=
    Call.exists_of_isOk (by decide +kernel)
  have horderly : Orderly b entity {} (knownColumns entity t s) t .text :=
    { names := show ∀ f ∈ Fields.allKeys b.items, IsName f by decide
      identity := by decide
      scalar := by decide
      items := by decide
      different := List.pairwise_singleton ..
      rows := ⟨nofun, List.Pairwise.nil⟩
      keyed := ⟨⟨"uniq_sku", ["sku"]⟩, List.mem_cons_of_mem _ (List.mem_singleton_self _), rfl⟩
      exact := fun _ _ _ _ _ _ _ hrow => nomatch hrow
      carried := fun hid => absurd hid (by decide)
      primary := by decide
      present := nofun
      numbers := List.Pairwise.nil
      sound := by decide +kernel
      settled := nofun }
  have halone : b.Alone entity {} (knownColumns entity t s) t := by
    refine ⟨nofun, fun doc hdoc other hother hne => absurd ?_ hne⟩
    rw [List.mem_singleton.mp hdoc, List.mem_singleton.mp hother]
  have hcompares : b.ComparesExactly entity {} (knownColumns entity t s) t := by
    intro f hf
    obtain rfl : f = "sku" := by simpa [entity] using hf
    exact ⟨(fun _ _ _ hrow => nomatch hrow), by decide⟩
  have hroom : (match (upsert.on s).2.timed.state.tables.find "products" with
      | .ok next => decide (next.nextId + b.items.length ≤ Value.maxInt)
      | .error _ => true) = true := by decide +kernel
  obtain ⟨again, later, hagain, hrows⟩ := an_upsert_that_is_repeated_changes_no_row {} s rfl
    (t := t) rfl (by decide) (by decide) horderly halone (fun _ _ _ hrow => nomatch hrow)
    (fun _ => hcompares) ⟨"name", by decide, by decide⟩ hon (fun next hnext => by
      rw [hon] at hroom
      dsimp only at hroom
      rw [hnext] at hroom
      exact of_decide_eq_true hroom)
  exact ⟨records, after, again, later, hon, hagain, hrows⟩

/-- A batch of nothing but keys has no field that stored rows could take over,
so the second time it is refused for the key that is there already. -/
example :
    let entity : Entity := { name := "product", storage := "products" }
    let b : Batch := { items := [[("sku", .str "A")]], keyField := some "sku" }
    let t : Tables.Table := {
      shape := .make "products" "id" [("sku", .text)] [⟨"uniq_sku", ["sku"]⟩] }
    let s : Relational.State Tables.Engine := .initial {} { tables := [("products", t)] }
    let upsert := b.upsert (inMemory entity {}).store
    (upsert.on s).1.isOk = true ∧ (upsert.on (upsert.on s).2).1.isOk = false := by
  decide +kernel

end EntityStore.Batch
