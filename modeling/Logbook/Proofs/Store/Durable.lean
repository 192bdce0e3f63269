import Logbook.Proofs.Disk
import Logbook.Proofs.Store.File
import Logbook.Proofs.Store.Ledger

/-!
# Durable stores refine ledgers

A durable store that is changed, closed and opened again answers like a ledger that was changed in
the same way and never closed. The order of the lines in its file drifts from the order of its rows,
since new rows go to the end of the file and a deletion rewrites the file in order; what carries
over a restart is that the rows are always *an arrangement* of the lines, and there is only one.

`Tracks` is that invariant: the ledger of the store is the ledger that was never closed, the file
spells some log, and the ledger arranges this log.

Results:

* `openRoute_again`: what opening a store again reads.
* `Tracks.step`: changing or opening again keeps the store on the track of the ledger.
* `Tracks.step_succeeds`: a step fails only where the file beside the store's own may not be
  written.
* `run_refines`: a run from a missing or empty file, restarts included, is a run of a ledger.
-/

namespace Logbook.DurableStore

open Disk (SameDirectories Extends)

variable {directory path : Path} {route : Route} {disk disk' : Disk} {s₀ s s' : DurableStore}
variable {l : Ledger} {file : Log}

/-! ## Opening -/

/-- What an opened store relies on when its path is opened again. -/
structure Opened (directory : Path) (route : Route) (s₀ : DurableStore) : Prop where
  writable : s₀.disk.writable s₀.path = true
  ancestors : ∀ p ∈ s₀.path.parent.ancestors, s₀.disk.isDirectory p = true
  again : ∀ disk, SameDirectories s₀.disk disk →
    openRoute directory route disk = openAt s₀.path disk

theorem Opened.writable_at (ho : Opened directory route s₀) (hpath : s.path = s₀.path)
    (h : SameDirectories s₀.disk s.disk) : s.disk.writable s.path = true := by
  rw [hpath, h.writable_eq, ho.writable]

theorem prepare?_spec (h : prepare? path disk = some disk') :
    ∃ disk₁, Extends disk disk₁ ∧ SameDirectories disk₁ disk' ∧ disk'.writable path = true ∧
      (∀ p ∈ path.parent.ancestors, disk'.isDirectory p = true) ∧
      disk'.read? path = some ((disk.read? path).getD .empty) := by
  obtain ⟨disk₁, h₁, h⟩ := Option.bind_eq_some_iff.1 h
  obtain ⟨hext, hdirs⟩ := Disk.makeDirectories?_spec h₁
  have hw : disk₁.writable path = true := by
    by_contra hw
    rw [Disk.append?, if_neg hw] at h
    cases h
  obtain ⟨disk₂, h₂, hsame, hread⟩ := Disk.append?_spec hw .empty
  rw [h] at h₂
  obtain rfl := Option.some.inj h₂
  refine ⟨disk₁, hext, hsame, ?_, fun p hp => ?_, ?_⟩
  · rw [hsame.writable_eq, hw]
  · rw [hsame, hdirs p hp]
  · rw [hread, hext.read?_eq, ByteArray.append_empty]

/-- Opening a store reads the rows of the file that is there, or of none. -/
theorem openAt_spec (h : openAt path disk = (.ok s, disk')) :
    s.path = path ∧ prepare? path disk = some s.disk ∧
      ∃ rows, decode ((disk.read? path).getD .empty) = .ok rows ∧ s.ledger = .ofRows rows := by
  unfold openAt at h
  split at h
  · cases h
  · rename_i disk₁ h₁
    obtain ⟨-, -, -, -, -, hread⟩ := prepare?_spec h₁
    rw [hread, Option.map_some] at h
    split at h
    · rename_i rows hrows
      cases h
      exact ⟨rfl, h₁, rows, Option.some.inj hrows, rfl⟩
    · cases h
    · cases h

theorem openAt_encode {rows : List Row} (hprepare : prepare? path disk = some disk')
    (hread : disk'.read? path = some (encode rows)) :
    openAt path disk = (.ok ⟨path, .ofRows rows, disk'⟩, disk') := by
  rw [openAt, hprepare]
  simp only [hread, Option.map_some, decode_encode]

/-- A path that was opened as written is opened at the same place again, whatever files have come
    and gone. -/
theorem openRoute_spec (h : openRoute directory route disk = (.ok s₀, disk')) :
    Opened directory route s₀ ∧
      ∃ disk₁, Extends disk disk₁ ∧ openAt s₀.path disk₁ = (.ok s₀, disk') := by
  unfold openRoute at h
  split at h
  · cases h
  rename_i hzero
  split at h
  · cases h
  rename_i parent disk₁ hparent
  split at h
  · cases h
  rename_i hzero'
  split at h
  · rename_i path hpath
    obtain ⟨rfl, hprepare, -⟩ := openAt_spec h
    obtain ⟨disk₂, hext₂, hsame, hw, hdirs, -⟩ := prepare?_spec hprepare
    have hway : route.parentSize ≤ Route.maxSize ∧
        Disk.makeWay route.steps.dropLast (route.start directory) disk = (some parent, disk₁) := by
      unfold Disk.makeParent at hparent
      split at hparent
      · rename_i hsize
        exact ⟨hsize, hparent⟩
      · cases hparent
    have hext := Disk.makeWay_extends route.steps.dropLast (route.start directory) disk
    rw [hway.2] at hext
    refine ⟨⟨hw, hdirs, fun other hother => ?_⟩, disk₁, hext, h⟩
    have hagain : Disk.makeParent directory route other = (some parent, other) := by
      rw [Disk.makeParent, if_pos hway.1]
      refine Disk.makeWay_again hway.2 fun p hp => ?_
      rw [hother, hsame]
      exact hext₂.isDirectory hp
    rw [openRoute, if_neg hzero, hagain]
    simp only [if_neg hzero', hpath]
  · cases h

/-- **What opening a store again reads** is the file as it is then, whatever files have come and
gone. -/
theorem openRoute_again (ho : Opened directory route s₀) (h : SameDirectories s₀.disk disk)
    {content : ByteArray} (hread : (disk.read? s₀.path).getD .empty = content) :
    openRoute directory route disk =
      ((decode content).map fun rows => ⟨s₀.path, .ofRows rows, disk.put s₀.path (.file content)⟩,
        disk.put s₀.path (.file content)) := by
  have hdirs : ∀ p ∈ s₀.path.parent.ancestors, disk.isDirectory p = true := fun p hp => by
    rw [h, ho.ancestors p hp]
  have hw : disk.writable s₀.path = true := (h.writable_eq _).trans ho.writable
  have hprepare : prepare? s₀.path disk = some (disk.put s₀.path (.file content)) := by
    rw [prepare?, Disk.makeDirectories?_again hdirs, Option.bind_eq_bind, Option.bind_some,
      Disk.append?, if_pos hw, hread, ByteArray.append_empty]
  have hne := Disk.ne_nil_of_isDirectory (Disk.isDirectory_of_writable hw)
  have hwritten := Disk.read?_put_self hne content disk
  rw [ho.again disk h, openAt, hprepare]
  simp only [hwritten, Option.map_some]
  cases decode content <;> rfl

/-- Opening a store again gives the rows of its file, and leaves the file as it is. -/
theorem reopen_spec (ho : Opened directory route s₀) (h : SameDirectories s₀.disk disk)
    {content : ByteArray} (hread : (disk.read? s₀.path).getD .empty = content) {rows : List Row}
    (hrows : decode content = .ok rows) :
    ∃ s', openRoute directory route disk = (.ok s', s'.disk) ∧ s'.path = s₀.path ∧
      SameDirectories s₀.disk s'.disk ∧ s'.ledger = .ofRows rows ∧
      s'.disk.read? s₀.path = some content := by
  have hpath := Disk.isDirectory_of_writable ho.writable
  have hopen := openRoute_again ho h hread
  rw [hrows] at hopen
  exact ⟨_, hopen, rfl, h.trans (Disk.sameDirectories_put ((h s₀.path).trans hpath) _), rfl,
    Disk.read?_put_self (Disk.ne_nil_of_isDirectory hpath) _ _⟩

theorem openRoute_root {content : ByteArray} {rows : List Row} (h : decode content = .ok rows) :
    openRoute [] ⟨true, [.into "logs.jsonl"], false, 11, 1⟩
        ⟨[(["logs.jsonl"], .file content)]⟩ =
      (.ok ⟨["logs.jsonl"], .ofRows rows, ⟨[(["logs.jsonl"], .file content)]⟩⟩,
        ⟨[(["logs.jsonl"], .file content)]⟩) := by
  have hprepare : prepare? ["logs.jsonl"] ⟨[(["logs.jsonl"], .file content)]⟩ =
      some ⟨[(["logs.jsonl"], .file content)]⟩ := by
    change some (Disk.mk [(["logs.jsonl"], .file (content ++ .empty))]) = _
    rw [ByteArray.append_empty]
  have hread : (⟨[(["logs.jsonl"], .file content)]⟩ : Disk).read? ["logs.jsonl"] = some content :=
    rfl
  change openAt ["logs.jsonl"] ⟨[(["logs.jsonl"], .file content)]⟩ = _
  rw [openAt, hprepare]
  simp only [hread, Option.map_some, h]

/-! ## Tracking a ledger -/

/-- The store holds the rows of a ledger, its file spells the log, and nothing but files has come
    and gone on the disk since the store was first opened. -/
structure Tracks (s₀ s : DurableStore) (l : Ledger) (file : Log) : Prop where
  path_eq : s.path = s₀.path
  directories : SameDirectories s₀.disk s.disk
  ledger_eq : s.ledger = l
  read : s.disk.read? s₀.path = some (encode file)
  arranges : Arranges l.rows file

/-- Opening a missing or empty file gives a store that tracks the ledger without rows. -/
theorem tracks_open (h : openRoute directory route disk = (.ok s₀, disk'))
    (hempty : (disk.read? s₀.path).getD .empty = .empty) : Tracks s₀ s₀ .empty [] := by
  obtain ⟨-, disk₁, hext, hopen⟩ := openRoute_spec h
  obtain ⟨-, hprepare, rows, hrows, hledger⟩ := openAt_spec hopen
  obtain ⟨-, -, -, -, -, hread⟩ := prepare?_spec hprepare
  rw [hext.read?_eq, hempty, ← encode_nil] at hread hrows
  rw [decode_encode] at hrows
  cases hrows
  exact ⟨rfl, SameDirectories.refl _, hledger, hread, Arranges.nil⟩

theorem Tracks.writable (h : Tracks s₀ s l file) (ho : Opened directory route s₀) :
    s.disk.writable s.path = true :=
  ho.writable_at h.path_eq h.directories

theorem insertMany_spec (hw : s.disk.writable s.path = true) (rows : List Row) :
    ∃ s', (Store.Update.insertMany rows).after? s = some s' ∧ s'.path = s.path ∧
      s'.ledger = s.ledger.insertMany rows ∧ SameDirectories s.disk s'.disk ∧
      s'.disk.read? s.path = some ((s.disk.read? s.path).getD .empty ++ encode rows) := by
  obtain ⟨disk', happend, hsame, hread⟩ := Disk.append?_spec hw (encode rows)
  refine ⟨{ s with disk := disk', ledger := s.ledger.insertMany rows }, ?_, rfl, rfl, hsame, hread⟩
  change (DurableStore.insertMany rows s).1.toOption.map
    (fun _ => (DurableStore.insertMany rows s).2) = _
  rw [DurableStore.insertMany, happend]
  rfl

/-- Inserting rows adds their lines to the file, and fails in no store on the track. -/
theorem Tracks.insertMany (h : Tracks s₀ s l file) (ho : Opened directory route s₀)
    (rows : List Row) :
    ∃ s', (Store.Update.insertMany rows).after? s = some s' ∧
      Tracks s₀ s' (l.insertMany rows) (file ++ rows) := by
  obtain ⟨s', hs', hpath, hledger, hsame, hread⟩ := insertMany_spec (h.writable ho) rows
  rw [h.path_eq, h.read, Option.getD_some, ← encode_append] at hread
  exact ⟨s', hs', hpath.trans h.path_eq, h.directories.trans hsame,
    hledger.trans (congrArg (·.insertMany rows) h.ledger_eq), hread, h.arranges.insertMany rows⟩

/-- Rewriting a file succeeds where it and the file beside it may be written. -/
theorem rewrite_spec (rows : List Row) (hpath : disk.writable path = true)
    (hsibling : disk.writable (sibling path) = true) :
    ∃ disk', rewrite path rows none disk = (.ok (), disk') ∧ SameDirectories disk disk' ∧
      disk'.read? path = some (encode rows) := by
  have hdir := Disk.isDirectory_of_writable hsibling
  have hmade := Disk.sameDirectories_put hdir .empty
  have hdir' := (hmade (sibling path)).trans hdir
  have hwritten := hmade.trans (Disk.sameDirectories_put hdir' (encode rows))
  have hread := Disk.read?_put_self (Disk.ne_nil_of_isDirectory hdir) (encode rows)
    (disk.put (sibling path) (.file .empty))
  obtain ⟨disk', hmove, hsame, hmoved⟩ :=
    Disk.rename?_spec hread ((hwritten.writable_eq path).trans hpath)
  refine ⟨disk', ?_, hwritten.trans hsame, hmoved⟩
  simp only [rewrite, Disk.write?, if_pos hsibling, reduceCtorEq, if_false, hmove]

theorem writable_of_rewrite {rows : List Row}
    (h : rewrite path rows none disk = (.ok (), disk')) :
    disk.writable (sibling path) = true := by
  by_contra hw
  simp only [rewrite, Disk.write?, if_neg hw, reduceCtorEq, if_false] at h
  cases h

theorem survivors_of_hitCount {d : Deletion} (h : l.hitCount d = 0) : l.survivors d = l := by
  have hle := List.length_filter_le (fun row => !d.hits row) l.rows
  have hlen : (l.rows.filter fun row => !d.hits row).length = l.rows.length := by
    rw [Ledger.hitCount, Ledger.delete_rows] at h
    omega
  rw [Ledger.survivors, List.filter_eq_self.2 (List.length_filter_eq_length_iff.1 hlen)]

theorem deleteCut_spec (hw : s.disk.writable s.path = true) {d : Deletion} {n : Nat}
    (h : deleteCut d none s = (.ok n, s')) :
    n = s.ledger.hitCount d ∧ s'.path = s.path ∧ s'.ledger = s.ledger.survivors d ∧
      SameDirectories s.disk s'.disk ∧
      (s' = s ∨ s'.disk.read? s.path = some (encode (s.ledger.survivors d).oldestFirst)) := by
  unfold deleteCut at h
  split at h
  · rename_i hzero
    cases h
    exact ⟨hzero.symm, rfl, (survivors_of_hitCount hzero).symm, SameDirectories.refl _, Or.inl rfl⟩
  · simp only at h
    split at h
    · rename_i disk₁ hrewrite
      obtain ⟨disk₂, hrewrite', hsame, hread⟩ := rewrite_spec (s.ledger.survivors d).oldestFirst
        hw (writable_of_rewrite hrewrite)
      rw [hrewrite] at hrewrite'
      cases hrewrite'
      cases h
      exact ⟨rfl, rfl, rfl, hsame, Or.inr hread⟩
    · cases h

theorem Tracks.delete (h : Tracks s₀ s l file) (ho : Opened directory route s₀) {d : Deletion}
    {n : Nat} (hdelete : deleteCut d none s = (.ok n, s')) :
    n = l.hitCount d ∧ ∃ file', Tracks s₀ s' (l.survivors d) file' := by
  obtain ⟨hn, hpath, hledger, hsame, hfile⟩ := deleteCut_spec (h.writable ho) hdelete
  rw [h.ledger_eq] at hn hledger hfile
  rcases hfile with rfl | hread
  · have harranges := h.arranges
    rw [← h.ledger_eq, hledger] at harranges
    exact ⟨hn, file, h.path_eq, h.directories, hledger, h.read, harranges⟩
  · rw [h.path_eq] at hread
    have hkept := (h.arranges.filter fun row => !d.hits row).ascending
    exact ⟨hn, (l.survivors d).oldestFirst, hpath.trans h.path_eq, h.directories.trans hsame,
      hledger, hread, hkept, fun _ => rfl⟩

theorem deleteCut_succeeds (hw : s.disk.writable s.path = true)
    (hsibling : s.disk.writable (sibling s.path) = true) (d : Deletion) :
    ∃ s', deleteCut d none s = (.ok (s.ledger.hitCount d), s') := by
  unfold deleteCut
  split
  · rename_i hzero
    exact ⟨s, by rw [hzero]⟩
  · obtain ⟨disk', hrewrite, -, -⟩ :=
      rewrite_spec (s.ledger.survivors d).oldestFirst hw hsibling
    simp only [hrewrite]
    exact ⟨_, rfl⟩

theorem Tracks.delete_succeeds (h : Tracks s₀ s l file) (ho : Opened directory route s₀)
    (hsibling : s₀.disk.writable (sibling s₀.path) = true) (d : Deletion) :
    ∃ s', deleteCut d none s = (.ok (l.hitCount d), s') := by
  have hsibling' : s.disk.writable (sibling s.path) = true := by
    rw [h.path_eq, h.directories.writable_eq, hsibling]
  have hdelete := deleteCut_succeeds (h.writable ho) hsibling' d
  rwa [h.ledger_eq] at hdelete

/-- Opening the store again gives the same rows: the ledger arranges the file, and so does the one
    that is read from it. -/
theorem Tracks.reopen (h : Tracks s₀ s l file) (ho : Opened directory route s₀) :
    ∃ s' disk', openRoute directory route s.disk = (.ok s', disk') ∧ Tracks s₀ s' l file := by
  have hcontent : (s.disk.read? s₀.path).getD .empty = encode file := by
    rw [h.read, Option.getD_some]
  obtain ⟨s', hopen, hpath, hdirs, hledger, hread⟩ :=
    reopen_spec ho h.directories hcontent (decode_encode file)
  have hsame : Ledger.ofRows file = l :=
    congrArg Ledger.mk ((arranges_ofRows file).unique h.arranges)
  exact ⟨s', _, hopen, hpath, hdirs, hledger.trans hsame, hread, h.arranges⟩

/-! ## Runs -/

/-- A step in the life of a durable store: a change, or closing the store and opening it again. -/
inductive Step where
  | update (u : Store.Update)
  | reopen

namespace Step

/-- The store after a step, unless the step fails. It is opened again as it was opened first. -/
def after? (directory : Path) (route : Route) : Step → DurableStore → Option DurableStore
  | .update u, s => u.after? s
  | .reopen, s => (openRoute directory route s.disk).1.toOption

/-- What the step is for a ledger that is never closed. -/
def inMemory : Step → List Ledger.Step
  | .update u => [.update u]
  | .reopen => []

end Step

/-- The store after a run of steps, unless one of them fails. -/
def run? (directory : Path) (route : Route) (steps : List Step) (s : DurableStore) :
    Option DurableStore :=
  steps.foldlM (fun s step => step.after? directory route s) s

theorem after?_insert (row : Row) :
    (Store.Update.insert row).after? s = (Store.Update.insertMany [row]).after? s := rfl

theorem after?_delete_iff (d : Deletion) :
    (Store.Update.delete d).after? s = some s' ↔ ∃ n, deleteCut d none s = (.ok n, s') := by
  change (deleteCut d none s).1.toOption.map (fun _ => (deleteCut d none s).2) = some s' ↔ _
  constructor
  · intro h
    obtain ⟨n, hn, hs⟩ := Option.map_eq_some_iff.1 h
    cases hout : (deleteCut d none s).1 with
    | ok m => exact ⟨m, Prod.ext hout hs⟩
    | error e =>
      rw [hout] at hn
      cases hn
  · rintro ⟨n, hn⟩
    rw [hn]
    rfl

/-- **A step keeps the store on the track of the ledger.** -/
theorem Tracks.step (h : Tracks s₀ s l file) (ho : Opened directory route s₀) {step : Step}
    (hstep : step.after? directory route s = some s') :
    ∃ l' file', Ledger.run? step.inMemory l = some l' ∧ Tracks s₀ s' l' file' := by
  cases step with
  | update u =>
    cases u with
    | insert row =>
      obtain ⟨s₁, h₁, ht⟩ := h.insertMany ho [row]
      rw [Step.after?, after?_insert, h₁] at hstep
      obtain rfl := Option.some.inj hstep
      exact ⟨_, _, rfl, ht⟩
    | insertMany rows =>
      obtain ⟨s₁, h₁, ht⟩ := h.insertMany ho rows
      rw [Step.after?, h₁] at hstep
      obtain rfl := Option.some.inj hstep
      exact ⟨_, _, rfl, ht⟩
    | delete d =>
      obtain ⟨n, hn⟩ := (after?_delete_iff d).1 hstep
      obtain ⟨-, file', ht⟩ := h.delete ho hn
      exact ⟨_, file', rfl, ht⟩
  | reopen =>
    obtain ⟨s₁, disk', hopen, ht⟩ := h.reopen ho
    rw [Step.after?, hopen] at hstep
    obtain rfl := Option.some.inj hstep
    exact ⟨l, file, rfl, ht⟩

/-- **A step fails only where the file beside the store's own may not be written.** -/
theorem Tracks.step_succeeds (h : Tracks s₀ s l file) (ho : Opened directory route s₀)
    (hsibling : s₀.disk.writable (sibling s₀.path) = true) (step : Step) :
    ∃ s', step.after? directory route s = some s' := by
  cases step with
  | update u =>
    cases u with
    | insert row =>
      obtain ⟨s', h', -⟩ := h.insertMany ho [row]
      exact ⟨s', h'⟩
    | insertMany rows =>
      obtain ⟨s', h', -⟩ := h.insertMany ho rows
      exact ⟨s', h'⟩
    | delete d =>
      obtain ⟨s', h'⟩ := h.delete_succeeds ho hsibling d
      exact ⟨s', (after?_delete_iff d).2 ⟨_, h'⟩⟩
  | reopen =>
    obtain ⟨s', disk', hopen, -⟩ := h.reopen ho
    exact ⟨s', congrArg (fun out => out.1.toOption) hopen⟩

theorem Tracks.run (h : Tracks s₀ s l file) (ho : Opened directory route s₀) {steps : List Step}
    (hrun : run? directory route steps s = some s') :
    ∃ l' file', Ledger.run? (steps.flatMap Step.inMemory) l = some l' ∧ Tracks s₀ s' l' file' := by
  induction steps generalizing s l file with
  | nil =>
    cases hrun
    exact ⟨l, file, rfl, h⟩
  | cons step rest ih =>
    rw [run?, List.foldlM_cons] at hrun
    obtain ⟨s₁, h₁, hrest⟩ := Option.bind_eq_some_iff.1 hrun
    obtain ⟨l₁, file₁, hl₁, ht₁⟩ := h.step ho h₁
    obtain ⟨l', file', hl', ht'⟩ := ih ht₁ hrest
    refine ⟨l', file', ?_, ht'⟩
    rw [List.flatMap_cons, Ledger.run?, List.foldlM_append]
    change (Ledger.run? step.inMemory l).bind (Ledger.run? (rest.flatMap Step.inMemory)) = some l'
    rw [hl₁]
    exact hl'

theorem Tracks.run_succeeds (h : Tracks s₀ s l file) (ho : Opened directory route s₀)
    (hsibling : s₀.disk.writable (sibling s₀.path) = true) (steps : List Step) :
    ∃ s', run? directory route steps s = some s' := by
  induction steps generalizing s l file with
  | nil => exact ⟨s, rfl⟩
  | cons step rest ih =>
    obtain ⟨s₁, h₁⟩ := h.step_succeeds ho hsibling step
    obtain ⟨l₁, file₁, -, ht₁⟩ := h.step ho h₁
    obtain ⟨s', h'⟩ := ih ht₁
    refine ⟨s', ?_⟩
    rw [run?, List.foldlM_cons, h₁]
    exact h'

/-- The store gives every answer that the ledger gives; a deletion may fail, but never with another
    count. -/
structure Answers (s : DurableStore) (l : Ledger) : Prop where
  select : ∀ selection, Store.select selection s = Store.select selection l
  count : ∀ selection, Store.count selection s = Store.count selection l
  distinct : ∀ facet, Store.distinct facet s = Store.distinct facet l
  delete : ∀ d n, ((Store.delete d).apply s).1 = .ok n → ((Store.delete d).apply l).1 = .ok n

theorem Tracks.answers (h : Tracks s₀ s l file) (ho : Opened directory route s₀) : Answers s l := by
  refine ⟨fun sel => ?_, fun sel => ?_, fun f => ?_, fun d n hn => ?_⟩
  · exact congrArg (fun l : Ledger => Except.ok (l.select sel)) h.ledger_eq
  · exact congrArg (fun l : Ledger => Except.ok (l.count sel)) h.ledger_eq
  · exact congrArg (fun l : Ledger => Except.ok (l.distinct f)) h.ledger_eq
  · have hdelete : deleteCut d none s = (.ok n, (deleteCut d none s).2) := Prod.ext hn rfl
    obtain ⟨rfl, -⟩ := h.delete ho hdelete
    rfl

theorem Tracks.size (h : Tracks s₀ s l file) :
    Store.size s = .ok (file.map fun row => (rowLine row).utf8ByteSize).sum := by
  change DurableStore.size s = _
  rw [DurableStore.size, h.path_eq, h.read]
  exact congrArg Except.ok (size_encode file)

/-- **A durable store refines a ledger across restarts.** From a missing or empty file, after any
run of changes and restarts that does not fail, the file holds the lines of some log, the rows are
the stable sort of that log, the size is the length of those lines, and every answer is that of a
ledger that went through the same changes and was never closed. No run fails where the file beside
the store's own may be written. -/
theorem run_refines (h : openRoute directory route disk = (.ok s₀, disk'))
    (hempty : (disk.read? s₀.path).getD .empty = .empty) (steps : List Step) :
    (∀ s, run? directory route steps s₀ = some s →
      ∃ (l : Ledger) (file : Log),
        Ledger.run? (steps.flatMap Step.inMemory) .empty = some l ∧
        s.disk.read? s.path = some (encode file) ∧
        s.ledger.oldestFirst = file.oldestFirst ∧
        Store.size s = .ok (file.map fun row => (rowLine row).utf8ByteSize).sum ∧
        Answers s l) ∧
    (s₀.disk.writable (sibling s₀.path) = true →
      ∃ s, run? directory route steps s₀ = some s) := by
  obtain ⟨ho, -⟩ := openRoute_spec h
  have ht := tracks_open h hempty
  refine ⟨fun s hrun => ?_, fun hsibling => ht.run_succeeds ho hsibling steps⟩
  obtain ⟨l, file, hl, hs⟩ := ht.run ho hrun
  refine ⟨l, file, hl, ?_, ?_, hs.size, hs.answers ho⟩
  · rw [hs.path_eq, hs.read]
  · rw [hs.ledger_eq]
    exact arranges_iff.1 hs.arranges

/-- In a directory without files a row outlives a restart and a deletion of other rows. -/
theorem run_refines_missing_file :
    ∃ s₀ s disk', openRoute [] ⟨true, [.into "logs.jsonl"], false, 11, 1⟩ .empty = (.ok s₀, disk') ∧
      run? [] ⟨true, [.into "logs.jsonl"], false, 11, 1⟩
        [.update (.insert ⟨⟨"1", ⟨"2024"⟩, "up\n", "info", "api"⟩, "{}"⟩), .reopen,
          .update (.delete ⟨some "cron", none⟩)] s₀ = some s ∧
      Answers s ⟨[⟨⟨"1", ⟨"2024"⟩, "up\n", "info", "api"⟩, "{}"⟩]⟩ := by
  have hprepare : prepare? ["logs.jsonl"] .empty = some ⟨[(["logs.jsonl"], .file .empty)]⟩ := by rfl
  have hread : (⟨[(["logs.jsonl"], .file .empty)]⟩ : Disk).read? ["logs.jsonl"] =
      some (encode []) := by
    rw [encode_nil]
    rfl
  have hopen : openRoute [] ⟨true, [.into "logs.jsonl"], false, 11, 1⟩ .empty =
      openAt ["logs.jsonl"] .empty := by rfl
  rw [openAt_encode hprepare hread] at hopen
  obtain ⟨hrefines, hsucceeds⟩ := run_refines hopen rfl
    [.update (.insert ⟨⟨"1", ⟨"2024"⟩, "up\n", "info", "api"⟩, "{}"⟩), .reopen,
      .update (.delete ⟨some "cron", none⟩)]
  obtain ⟨s, hs⟩ := hsucceeds rfl
  obtain ⟨l, file, hl, -, -, -, hanswers⟩ := hrefines s hs
  have hinsert : ∀ row, Ledger.insert .empty row = ⟨[row]⟩ := fun row => by
    rw [Ledger.insert, Ledger.empty, Ledger.insertRow, bisect]
    rfl
  change some ((Ledger.insert .empty _).survivors _) = some l at hl
  rw [hinsert] at hl
  obtain rfl := Option.some.inj hl
  exact ⟨_, s, _, hopen, hs, hanswers⟩

end Logbook.DurableStore
