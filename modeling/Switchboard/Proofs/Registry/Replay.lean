import Mathlib.Data.List.Induction
import Mathlib.Tactic.Common
import Switchboard.Proofs.Registry.Journal
import Switchboard.Registry.Snapshot

/-!
# Replaying a journal

The list of descriptors after any run is a function of the journal: every
successful add contributes its descriptors, unless a later clear removed them or
the registration that held them was disposed before it was detached.

The induction goes over the operations from an arbitrary orderly desk, since
after the first operation the desk is no longer fresh.  The descriptors already
listed there are the ones spared by what follows.
-/

namespace Switchboard

/-- A desk with a fresh registry.  Its ids start wherever the counter of the
process stands. -/
def Desk.opened (resolver : Resolver) (firstId : Nat) : Desk :=
  { registry := { resolver := resolver, nextId := firstId } }

theorem Desk.opened_orderly (resolver : Resolver) (firstId : Nat) :
    (opened resolver firstId).Orderly :=
  ⟨rfl, List.Pairwise.nil, by simp [opened], by simp [opened, guarded, pending?]⟩

/-! ## Runs -/

namespace Operation

/-- The entries that operations leave when they are performed one after the other. -/
def journal (desk : Desk) : List Operation → List Entry
  | [] => []
  | operation :: rest => operation.entry desk :: journal (operation.perform desk).2 rest

@[simp] theorem performAll_nil (desk : Desk) : performAll desk [] = desk := rfl

@[simp] theorem performAll_cons (desk : Desk) (operation : Operation) (rest : List Operation) :
    performAll desk (operation :: rest) = performAll (operation.perform desk).2 rest := rfl

@[simp] theorem performAll_append (desk : Desk) (operations later : List Operation) :
    performAll desk (operations ++ later) = performAll (performAll desk operations) later :=
  List.foldl_append

@[simp] theorem journal_nil (desk : Desk) : journal desk [] = [] := rfl

@[simp] theorem journal_cons (desk : Desk) (operation : Operation) (rest : List Operation) :
    journal desk (operation :: rest) =
      operation.entry desk :: journal (operation.perform desk).2 rest := rfl

@[simp] theorem journal_append (desk : Desk) (operations later : List Operation) :
    journal desk (operations ++ later) =
      journal desk operations ++ journal (performAll desk operations) later := by
  induction operations generalizing desk with
  | nil => rfl
  | cons operation rest ih => simp [ih]

/-- An entry in the middle of a journal belongs to an operation in the middle of
the run. -/
theorem exists_of_journal_eq_append
    {desk : Desk} {operations : List Operation} {past later : List Entry} {entry : Entry}
    (h : journal desk operations = past ++ entry :: later) :
    ∃ before operation after, operations = before ++ operation :: after ∧
      entry = operation.entry (performAll desk before) ∧
      later = journal (operation.perform (performAll desk before)).2 after := by
  induction operations generalizing desk past with
  | nil => simp at h
  | cons operation rest ih =>
      cases past with
      | nil =>
          obtain ⟨hentry, hlater⟩ := List.cons.inj h
          exact ⟨[], operation, rest, rfl, hentry.symm, hlater.symm⟩
      | cons first past =>
          obtain ⟨-, hrest⟩ := List.cons.inj h
          obtain ⟨before, middle, after, rfl, hentry, hlater⟩ := ih hrest
          exact ⟨operation :: before, middle, after, rfl, hentry, hlater⟩

/-- An invariant of single operations holds after every run. -/
theorem performAll_orderly {desk : Desk} (h : desk.Orderly) (operations : List Operation) :
    (performAll desk operations).Orderly := by
  induction operations generalizing desk with
  | nil => exact h
  | cons operation rest ih => exact ih ((operation.perform_effect h).orderly h)

end Operation

/-! ## The rule -/

/-- Whether the registration held under a name is disposed before it is detached. -/
def releases (name : String) (later : List Entry) : Bool :=
  (later.takeWhile fun entry => entry.detached? ≠ some name).any fun entry =>
    entry.disposed? = some name

/-- The descriptors of an add that are listed after what follows it. -/
def Entry.lasting (entry : Entry) (later : List Entry) : List Descriptor :=
  if later.any Entry.clears then []
  else if entry.held?.any fun name => releases name later then []
  else entry.created

/-- The descriptors that a journal leaves. -/
def surviving : List Entry → List Descriptor
  | [] => []
  | entry :: later => entry.lasting later ++ surviving later

theorem releases_cons (name : String) (entry : Entry) (later : List Entry) :
    releases name (entry :: later) = false ↔
      entry.detached? = some name ∨
        (entry.disposed? ≠ some name ∧ releases name later = false) := by
  unfold releases
  rw [List.takeWhile_cons]
  by_cases hdetached : entry.detached? = some name
  · simp [hdetached]
  · simp [hdetached]

/-- Whether what follows leaves a listed descriptor in place. -/
def Desk.Spares (desk : Desk) (later : List Entry) (descriptor : Descriptor) : Prop :=
  later.any Entry.clears = false ∧
    ∀ name, descriptor.id ∈ desk.guarded name → releases name later = false

namespace Effect

variable {desk after : Desk} {entry : Entry}

/-- A release takes an older descriptor afterwards only if it would have before. -/
theorem mem_guarded_iff
    (h : Effect desk entry after) {id : Nat} (hold : id < desk.registry.nextId) (name : String) :
    id ∈ after.guarded name ↔
      id ∈ desk.guarded name ∧ entry.disposed? ≠ some name ∧ entry.detached? ≠ some name := by
  unfold Desk.guarded
  rw [h.pending name]
  by_cases hheld : entry.held? = some name
  · have hnew : id ∉ entry.created.map Descriptor.id := by
      intro hmem
      obtain ⟨descriptor, hcreated, rfl⟩ := List.mem_map.mp hmem
      have hle := (h.created_fresh descriptor hcreated).1
      omega
    rw [if_pos hheld]
    simp [Entry.disposed?_of_held? hheld]
    simpa using hnew
  · by_cases hnamed : entry.disposed? = some name ∨ entry.detached? = some name
    · rw [if_neg hheld, if_pos hnamed]
      simp only [Option.getD_none, List.not_mem_nil, false_iff, not_and]
      intro _ hdisposed hdetached
      exact hnamed.elim hdisposed hdetached
    · rw [if_neg hheld, if_neg hnamed]
      rw [not_or] at hnamed
      simp [hnamed]

/-- Only the registration of its own add takes a new descriptor away. -/
theorem created_mem_guarded_iff
    (h : Effect desk entry after) (horderly : desk.Orderly)
    {descriptor : Descriptor} (hmem : descriptor ∈ entry.created) (name : String) :
    descriptor.id ∈ after.guarded name ↔ entry.held? = some name := by
  have hle : desk.registry.nextId ≤ descriptor.id := (h.created_fresh descriptor hmem).1
  have hnot : descriptor.id ∉ desk.guarded name := fun hguarded => by
    have hlt := horderly.guarded_fresh name descriptor.id hguarded
    omega
  constructor
  · intro hguarded
    by_contra hheld
    unfold Desk.guarded at hguarded
    rw [h.pending name, if_neg hheld] at hguarded
    split at hguarded
    · simp at hguarded
    · exact hnot hguarded
  · intro hheld
    unfold Desk.guarded
    rw [h.pending name, if_pos hheld]
    exact List.mem_map_of_mem hmem

/-- A listed descriptor is spared by a journal when the first entry leaves it and
the others spare it. -/
theorem spares_cons_iff
    (h : Effect desk entry after) (later : List Entry)
    {descriptor : Descriptor} (hold : descriptor.id < desk.registry.nextId) :
    desk.Spares (entry :: later) descriptor ↔
      entry.strikes desk descriptor = false ∧ after.Spares later descriptor := by
  have hguarded := h.mem_guarded_iff hold
  rw [Entry.strikes_eq_false_iff]
  constructor
  · rintro ⟨hclears, hreleases⟩
    rw [List.any_cons, Bool.or_eq_false_iff] at hclears
    have hcases : ∀ name, descriptor.id ∈ desk.guarded name →
        entry.detached? = some name ∨
          (entry.disposed? ≠ some name ∧ releases name later = false) :=
      fun name hmem => (releases_cons name entry later).mp (hreleases name hmem)
    refine ⟨⟨hclears.1, ?_⟩, hclears.2, ?_⟩
    · intro name hdisposed hmem
      rcases hcases name hmem with hdetached | ⟨hkept, -⟩
      · exact Entry.detached?_ne_of_disposed? hdisposed hdetached
      · exact hkept hdisposed
    · intro name hmem
      obtain ⟨hbefore, -, hdetached⟩ := (hguarded name).mp hmem
      rcases hcases name hbefore with hdetaches | ⟨-, hlater⟩
      · exact absurd hdetaches hdetached
      · exact hlater
  · rintro ⟨⟨hclears, hstays⟩, hlater, hreleases⟩
    refine ⟨by simp [hclears, hlater], ?_⟩
    intro name hmem
    rw [releases_cons]
    have hdisposed : entry.disposed? ≠ some name := fun h => hstays name h hmem
    by_cases hdetached : entry.detached? = some name
    · exact Or.inl hdetached
    · have hlisted := (hguarded name).mpr ⟨hmem, hdisposed, hdetached⟩
      exact Or.inr ⟨hdisposed, hreleases name hlisted⟩

/-- The new descriptors that what follows spares are the lasting ones. -/
theorem filter_created
    (h : Effect desk entry after) (horderly : desk.Orderly) (later : List Entry)
    (keep : Descriptor → Bool)
    (hkeep : ∀ descriptor, keep descriptor ↔ after.Spares later descriptor) :
    entry.created.filter keep = entry.lasting later := by
  have hspares : ∀ descriptor ∈ entry.created, keep descriptor ↔
      later.any Entry.clears = false ∧
        ∀ name, entry.held? = some name → releases name later = false := by
    intro descriptor hmem
    rw [hkeep]
    unfold Desk.Spares
    simp only [h.created_mem_guarded_iff horderly hmem]
  unfold Entry.lasting
  split
  next hcleared =>
    apply List.filter_eq_nil_iff.mpr
    intro descriptor hmem hkept
    have hclears := ((hspares descriptor hmem).mp hkept).1
    simp [hclears] at hcleared
  next hcleared =>
    split
    next hreleased =>
      obtain ⟨name, hheld, hreleases⟩ : ∃ name, entry.held? = some name ∧ releases name later := by
        simpa [Option.any_eq_true] using hreleased
      apply List.filter_eq_nil_iff.mpr
      intro descriptor hmem hkept
      have hnot := ((hspares descriptor hmem).mp hkept).2 name hheld
      simp [hnot] at hreleases
    next hreleased =>
      apply List.filter_eq_self.mpr
      intro descriptor hmem
      refine (hspares descriptor hmem).mpr ⟨by simpa using hcleared, ?_⟩
      intro name hheld
      simpa [hheld] using hreleased

end Effect

namespace Operation

open Classical in
/-- After any run the list holds the older descriptors that the journal spares,
then those it created and left. -/
theorem performAll_descriptors
    {desk : Desk} (h : desk.Orderly) (operations : List Operation) :
    (performAll desk operations).registry.descriptors =
      (desk.registry.descriptors.filter fun descriptor =>
          decide (desk.Spares (journal desk operations) descriptor)) ++
        surviving (journal desk operations) := by
  -- What the first operation creates is listed on the next desk, so there it is
  -- among the older descriptors that the remaining entries may spare.
  induction operations generalizing desk with
  | nil => simp [Desk.Spares, releases, surviving]
  | cons operation rest ih =>
      have heffect := operation.perform_effect h
      have holder : ∀ descriptor ∈ desk.registry.descriptors,
          (decide ((operation.perform desk).2.Spares
              (journal (operation.perform desk).2 rest) descriptor) &&
            !(operation.entry desk).strikes desk descriptor) =
          decide (desk.Spares (journal desk (operation :: rest)) descriptor) := by
        intro descriptor hmem
        have hiff := heffect.spares_cons_iff (journal (operation.perform desk).2 rest)
          (h.fresh descriptor hmem)
        rw [journal_cons, Bool.eq_iff_iff]
        simp [hiff, and_comm]
      rw [performAll_cons, ih (heffect.orderly h), heffect.descriptors, List.filter_append,
        List.filter_filter, List.filter_congr holder,
        heffect.filter_created h _ _ (fun _ => decide_eq_true_iff), List.append_assoc]
      rfl

/-- On a desk with a fresh registry the journal tells the whole list. -/
theorem opened_performAll_descriptors
    (resolver : Resolver) (firstId : Nat) (operations : List Operation) :
    (performAll (Desk.opened resolver firstId) operations).registry.descriptors =
      surviving (journal (Desk.opened resolver firstId) operations) := by
  have hlist := performAll_descriptors (Desk.opened_orderly resolver firstId) operations
  simpa [Desk.opened] using hlist

/-- Every entry of a journal accounts for the descriptors it created. -/
theorem journal_created
    {desk : Desk} {operations : List Operation} {entry : Entry}
    (h : entry ∈ journal desk operations) :
    (∃ request, entry.request = some request ∧
      entry.report = .added (entry.created.map Descriptor.id) ∧
      entry.created.map Descriptor.binding = request.bindings) ∨
    ((∀ ids, entry.report ≠ .added ids) ∧ entry.created = []) := by
  obtain ⟨before, after, hjournal⟩ := List.append_of_mem h
  obtain ⟨earlier, operation, -, -, rfl, -⟩ := exists_of_journal_eq_append hjournal
  exact created_cases _ operation

end Operation

/-- The descriptors of one add survive together. -/
theorem exists_entry_of_mem_surviving
    {past : List Entry} {descriptor : Descriptor} (h : descriptor ∈ surviving past) :
    ∃ entry ∈ past, descriptor ∈ entry.created ∧ entry.created ⊆ surviving past := by
  induction past with
  | nil => cases h
  | cons entry later ih =>
      rcases List.mem_append.mp h with hlasting | hlater
      · have hall : entry.lasting later = entry.created := by
          unfold Entry.lasting at hlasting ⊢
          split
          next hcleared => simp [hcleared] at hlasting
          next hcleared =>
            rw [if_neg hcleared] at hlasting
            split
            next hreleased => simp [hreleased] at hlasting
            next => rfl
        rw [hall] at hlasting
        refine ⟨entry, List.mem_cons_self, hlasting, ?_⟩
        rw [surviving, hall]
        exact List.subset_append_left _ _
      · obtain ⟨other, hmem, hcreated, hsiblings⟩ := ih hlater
        refine ⟨other, List.mem_cons_of_mem _ hmem, hcreated, ?_⟩
        exact List.Subset.trans hsiblings (List.subset_append_right _ _)

/-! ## Handles -/

/-- Whether an operation holds, disposes or detaches a registration under a name. -/
def Entry.names (name : String) (entry : Entry) : Bool :=
  entry.disposed? = some name || entry.detached? = some name

namespace Effect

variable {desk after : Desk} {entry : Entry}

theorem pending?_of_names
    (h : Effect desk entry after) {name : String} (hnames : entry.names name = true) :
    (after.pending? name).isSome ↔ entry.held? = some name := by
  have hnamed : entry.disposed? = some name ∨ entry.detached? = some name := by
    simpa [Entry.names] using hnames
  rw [h.pending name, if_pos hnamed]
  by_cases hheld : entry.held? = some name
  · simp [hheld]
  · simp [hheld]

theorem pending?_of_not_names
    (h : Effect desk entry after) {name : String} (hnames : entry.names name = false) :
    after.pending? name = desk.pending? name := by
  have hnamed : ¬(entry.disposed? = some name ∨ entry.detached? = some name) := by
    simpa [Entry.names] using hnames
  have hheld : entry.held? ≠ some name := fun hheld =>
    hnamed (Or.inl (Entry.disposed?_of_held? hheld))
  rw [h.pending name, if_neg hheld, if_neg hnamed]

end Effect

namespace Operation

/-- A registration is pending under a name exactly when the last operation on the
name is the add that holds it. -/
theorem performAll_pending?
    {desk : Desk} (h : desk.Orderly) {name : String} (hnone : desk.pending? name = none)
    (operations : List Operation) :
    ((performAll desk operations).pending? name).isSome ↔
      ∃ holder, ((journal desk operations).filter (Entry.names name)).getLast? = some holder ∧
        holder.held? = some name := by
  -- From the end: the last operation names the registration or leaves it alone.
  induction operations using List.reverseRecOn with
  | nil => simp [hnone]
  | append_singleton before operation ih =>
      have heffect := operation.perform_effect (performAll_orderly h before)
      rw [performAll_append, journal_append, journal_cons, journal_nil, List.filter_append]
      cases hnames : (operation.entry (performAll desk before)).names name with
      | true =>
          rw [performAll_cons, performAll_nil, heffect.pending?_of_names hnames]
          simp [hnames]
      | false =>
          rw [performAll_cons, performAll_nil, heffect.pending?_of_not_names hnames]
          simpa [hnames] using ih

/-- As long as nothing new is held under a name, a release takes nothing that it
would not have taken before. -/
theorem performAll_guarded_subset
    {desk : Desk} (h : desk.Orderly) (name : String) (operations : List Operation)
    (hheld : ∀ entry ∈ journal desk operations, entry.held? ≠ some name) :
    (performAll desk operations).guarded name ⊆ desk.guarded name := by
  induction operations generalizing desk with
  | nil => exact List.Subset.refl _
  | cons operation rest ih =>
      have heffect := operation.perform_effect h
      rw [journal_cons, List.forall_mem_cons] at hheld
      have hrest := ih (heffect.orderly h) hheld.2
      have hfirst : (operation.perform desk).2.guarded name ⊆ desk.guarded name := by
        unfold Desk.guarded
        rw [heffect.pending name, if_neg hheld.1]
        split
        · exact List.nil_subset _
        · exact List.Subset.refl _
      exact List.Subset.trans hrest hfirst

/-- What a run adds to the list has ids that were still unused. -/
theorem performAll_mem_descriptors
    {desk : Desk} (h : desk.Orderly) (operations : List Operation) {descriptor : Descriptor}
    (hmem : descriptor ∈ (performAll desk operations).registry.descriptors) :
    descriptor ∈ desk.registry.descriptors ∨ desk.registry.nextId ≤ descriptor.id := by
  induction operations generalizing desk with
  | nil => exact Or.inl hmem
  | cons operation rest ih =>
      have heffect := operation.perform_effect h
      rcases ih (heffect.orderly h) hmem with hlisted | hlater
      · rcases heffect.mem_of_mem_descriptors hlisted with hold | hnew
        · exact Or.inl hold
        · exact Or.inr (heffect.created_fresh descriptor hnew).1
      · exact Or.inr (heffect.nextId_le.trans hlater)

/-- After a clear, releasing a registration from before it takes nothing. -/
theorem guarded_not_listed_of_clears
    {desk : Desk} (h : desk.Orderly) {name : String} {operation : Operation}
    (hclears : (operation.entry desk).clears = true) (operations : List Operation)
    (hheld : ∀ entry ∈ journal (operation.perform desk).2 operations,
      entry.held? ≠ some name) :
    ∀ descriptor ∈ (performAll (operation.perform desk).2 operations).registry.descriptors,
      descriptor.id ∉ (performAll (operation.perform desk).2 operations).guarded name := by
  have hclear : operation = .clear := by
    cases operation <;> first | rfl | cases hclears
  subst hclear
  have hcleared : ((clear.perform desk).2).registry.descriptors = [] :=
    Registry.clear_descriptors desk.registry
  have horderly : (clear.perform desk).2.Orderly :=
    (clear.perform_effect h).orderly h
  intro descriptor hmem hguarded
  have hbefore := horderly.guarded_fresh name descriptor.id
    (performAll_guarded_subset horderly name operations hheld hguarded)
  rcases performAll_mem_descriptors horderly operations hmem with hlisted | hlater
  · simp [hcleared] at hlisted
  · omega

end Operation

/-- What a journal tells about the desk that it leads to. -/
structure Replays (past : List Entry) (desk : Desk) : Prop where
  /-- A successful add makes one descriptor for each binding it asked for, under
  the ids it reports; no other operation makes any. -/
  created : ∀ entry ∈ past,
    (∃ request, entry.request = some request ∧
      entry.report = .added (entry.created.map Descriptor.id) ∧
      entry.created.map Descriptor.binding = request.bindings) ∨
    ((∀ ids, entry.report ≠ .added ids) ∧ entry.created = [])
  descriptors : desk.registry.snapshot.descriptors = surviving past
  distinct : (desk.registry.snapshot.descriptors.map Descriptor.id).Nodup
  increasing : (desk.registry.snapshot.descriptors.map Descriptor.id).Pairwise (· < ·)
  /-- Disposing a name reports true exactly when the last operation on the name is
  the add that holds it: not after a disposal, a drop or a detachment. -/
  released_once : ∀ name,
    ((Operation.dispose name).perform desk).1 = .disposed true ↔
      ∃ holder, (past.filter (Entry.names name)).getLast? = some holder ∧
        holder.held? = some name
  /-- Releasing a registration that was held before a clear changes nothing in the
  registry. -/
  cleared : ∀ before clearing after name, past = before ++ clearing :: after →
    clearing.clears = true → (∀ entry ∈ after, entry.held? ≠ some name) →
    ((Operation.dispose name).perform desk).2.registry = desk.registry ∧
      ((Operation.drop name).perform desk).2.registry = desk.registry

/-- Every run leads to the desk that its journal tells. -/
theorem performAll_replays (resolver : Resolver) (firstId : Nat) (operations : List Operation) :
    Replays (Operation.journal (Desk.opened resolver firstId) operations)
      (Operation.performAll (Desk.opened resolver firstId) operations) := by
  have hopened := Desk.opened_orderly resolver firstId
  have horderly := Operation.performAll_orderly hopened operations
  refine ⟨?_, ?_, ?_, horderly.increasing, ?_, ?_⟩
  · intro entry hmem
    exact Operation.journal_created hmem
  · exact Operation.opened_performAll_descriptors resolver firstId operations
  · exact horderly.increasing.imp Nat.ne_of_lt
  · intro name
    rw [(Operation.perform_dispose horderly.alive name).1]
    exact Operation.performAll_pending? hopened rfl operations
  · intro before clearing after name hpast hclears hheld
    obtain ⟨earlier, operation, later, rfl, rfl, rfl⟩ :=
      Operation.exists_of_journal_eq_append hpast
    have hstale := Operation.guarded_not_listed_of_clears
      (Operation.performAll_orderly hopened earlier) hclears later hheld
    rw [(Operation.perform_dispose horderly.alive name).2,
      Operation.perform_drop horderly.alive name]
    rw [Operation.performAll_append, Operation.performAll_cons]
    exact ⟨Registry.remove_eq_self hstale, Registry.remove_eq_self hstale⟩

end Switchboard
