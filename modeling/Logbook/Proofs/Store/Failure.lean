import Logbook.Proofs.Store.Durable

/-!
# Deletions that fail

A deletion writes the rows that stay to a file beside the store's own and then moves that file over
the old one. Wherever this breaks off, only the file beside has been touched, and nothing ever reads
that file before it is written afresh. So two stores whose disks agree everywhere but there cannot
be told apart: every call gives the same reply to both, and leaves two such stores.

Results:

* `sibling_ne`: the file beside the store's own is never the store's own.
* `rewrite_error`: a rewriting that fails touches nothing but the file beside.
* `Alike.perform`: no call can tell stores apart that differ only in the file beside.
* `failed_delete_unseen`: a failed deletion changes nothing, now or later.
-/

namespace Logbook

namespace Path

/-- A name is its stem alone, or its stem, a dot and an extension without dots. -/
theorem stem_cases (name : List Char) :
    stem name = name ∨ ∃ extension, name = stem name ++ '.' :: extension ∧ '.' ∉ extension := by
  have hsplit := List.takeWhile_append_dropWhile (p := (· != '.')) (l := name.reverse)
  unfold stem
  cases hdrop : name.reverse.dropWhile (· != '.') with
  | nil => exact Or.inl rfl
  | cons c before =>
    -- The first character that is left is the last dot of the name.
    have hc : c = '.' := by
      have hhead := List.head?_dropWhile_not (· != '.') name.reverse
      rw [hdrop, List.head?_cons] at hhead
      simpa using hhead
    cases before with
    | nil => exact Or.inl rfl
    | cons b before =>
      refine Or.inr ⟨(name.reverse.takeWhile (· != '.')).reverse, ?_, fun h => ?_⟩
      · rw [hdrop, hc] at hsplit
        have hname := congrArg List.reverse hsplit
        rw [List.reverse_reverse, List.reverse_append, List.reverse_cons, List.append_assoc,
          List.singleton_append] at hname
        exact hname.symm
      · have hall := List.all_eq_true.1
          (List.all_takeWhile (p := (· != '.')) (l := name.reverse)) '.' (List.mem_reverse.1 h)
        exact absurd hall (by decide)

end Path

namespace DurableStore

open Disk (SameDirectories AgreeBut)

/-- **The file beside the store's own is never the store's own.** -/
theorem sibling_ne {path : Path} (h : path ≠ []) : sibling path ≠ path := by
  obtain ⟨parent, name, rfl⟩ : ∃ parent name, path = parent ++ [name] :=
    ⟨path.dropLast, path.getLast h, (List.dropLast_append_getLast h).symm⟩
  intro heq
  rw [sibling, Path.withExtension, List.getLast?_concat] at heq
  simp only [List.dropLast_concat] at heq
  have hname := congrArg String.toList (List.cons.inj (List.append_cancel_left heq)).1
  have hchars : Path.stem name.toList ++ '.' :: "jsonl.tmp".toList = name.toList := by
    simp only [String.toList_append, String.toList_ofList, List.append_assoc] at hname
    exact hname
  rcases Path.stem_cases name.toList with hstem | ⟨extension, hext, hdots⟩
  · rw [hstem] at hchars
    exact absurd (List.append_right_eq_self.1 hchars) (List.cons_ne_nil _ _)
  · have hsame := (List.cons.inj (List.append_cancel_left (hchars.trans hext))).2
    exact hdots (hsame ▸ by decide)

/-! ## Rewriting -/

section Rewriting

variable {path : Path} {disk disk' a b : Disk} {rows : List Row} {cut : Option Interruption}

theorem rewrite_eq (path : Path) (rows : List Row) (cut : Option Interruption) (disk : Disk) :
    rewrite path rows cut disk =
      if cut = some .create ∨ disk.writable (sibling path) = false then
        (.error (.io .system), disk)
      else
        match cut with
        | some (.write n) => (.error (.io .system),
            disk.put (sibling path) (.file ((encode rows).extract 0 n)))
        | _ =>
          let written := disk.put (sibling path) (.file (encode rows))
          if cut = some .rename ∨ disk.writable path = false then (.error (.io .system), written)
          else (.ok (), (written.erase (sibling path)).put path (.file (encode rows))) := by
  cases hw : disk.writable (sibling path) with
  | false =>
    rw [if_pos (Or.inr rfl)]
    unfold rewrite
    split
    · rfl
    · rename_i made hmade
      simp only [Disk.write?, hw, Bool.false_eq_true, if_false, ite_self] at hmade
      cases hmade
  | true =>
    have hdir := Disk.isDirectory_of_writable hw
    have hread := Disk.read?_put_self (Disk.ne_nil_of_isDirectory hdir) (encode rows) disk
    have hpath := (Disk.sameDirectories_put hdir (encode rows)).writable_eq path
    have hmade : disk.write? (sibling path) .empty =
        some (disk.put (sibling path) (.file .empty)) := if_pos hw
    rcases cut with _ | (_ | n | _)
    · simp only [rewrite, reduceCtorEq, if_false, hmade, Disk.put_put, Disk.rename?, hread, hpath,
        false_or, Bool.true_eq_false]
      cases disk.writable path <;> rfl
    · simp only [rewrite, if_true, true_or]
    · simp only [rewrite, Option.some.injEq, reduceCtorEq, if_false, hmade, Disk.put_put, false_or,
        Bool.true_eq_false]
    · simp only [rewrite, Option.some.injEq, reduceCtorEq, if_false, hmade, Disk.put_put, false_or,
        Bool.true_eq_false, if_true, true_or]

theorem isDirectory_of_admitted {refused : Prop} (h : ¬(refused ∨ disk.writable path = false)) :
    disk.isDirectory path = false :=
  Disk.isDirectory_of_writable (eq_true_of_ne_false fun hw => h (Or.inr hw))

theorem rewrite_cut (h : cut ≠ none) (path : Path) (rows : List Row) (disk : Disk) :
    ∃ e, (rewrite path rows cut disk).1 = .error e := by
  rw [rewrite_eq]
  split
  · exact ⟨_, rfl⟩
  · cases cut with
    | none => exact absurd rfl h
    | some i =>
      cases i with
      | create => exact absurd (Or.inl rfl) ‹_›
      | write n => exact ⟨_, rfl⟩
      | rename => exact ⟨_, congrArg Prod.fst (if_pos (Or.inl rfl))⟩

/-- **A rewriting that fails touches nothing but the file beside.** -/
theorem rewrite_error {e : StoreError} (h : rewrite path rows cut disk = (.error e, disk')) :
    AgreeBut (sibling path) disk disk' := by
  rw [rewrite_eq] at h
  split at h
  · cases h
    exact AgreeBut.refl _ _
  · rename_i hmade
    have hdir := isDirectory_of_admitted hmade
    split at h
    · cases h
      exact Disk.agreeBut_put hdir _
    · simp only at h
      split at h
      · cases h
        exact Disk.agreeBut_put hdir _
      · cases h

/-- A rewriting does the same to trees that agree but at the file beside. -/
theorem rewrite_agree (h : AgreeBut (sibling path) a b) (rows : List Row)
    (cut : Option Interruption) :
    (rewrite path rows cut b).1 = (rewrite path rows cut a).1 ∧
      AgreeBut (sibling path) (rewrite path rows cut a).2 (rewrite path rows cut b).2 := by
  rw [rewrite_eq, rewrite_eq, h.directories.writable_eq, h.directories.writable_eq]
  split
  · exact ⟨rfl, h⟩
  · rename_i hmade
    have hdir := isDirectory_of_admitted hmade
    split
    · exact ⟨rfl, h.put hdir _⟩
    · have hwritten := h.put hdir (encode rows)
      simp only
      split
      · exact ⟨rfl, hwritten⟩
      · rename_i hmoved
        have hpath := isDirectory_of_admitted hmoved
        have hdir' := (Disk.sameDirectories_put hdir (encode rows) (sibling path)).trans hdir
        have hpath' := (Disk.sameDirectories_put hdir (encode rows) path).trans hpath
        have herase := (Disk.sameDirectories_erase hdir' path).trans hpath'
        exact ⟨rfl, (hwritten.erase hdir').put herase _⟩

/-- A rewriting leaves the directories as they are. -/
theorem rewrite_directories (path : Path) (rows : List Row) (cut : Option Interruption)
    (disk : Disk) : SameDirectories disk (rewrite path rows cut disk).2 := by
  rw [rewrite_eq]
  split
  · exact SameDirectories.refl _
  · rename_i hmade
    have hdir := isDirectory_of_admitted hmade
    split
    · exact Disk.sameDirectories_put hdir _
    · have hwritten := Disk.sameDirectories_put hdir (encode rows)
      simp only
      split
      · exact hwritten
      · rename_i hmoved
        have hpath := isDirectory_of_admitted hmoved
        have herase := hwritten.trans
          (Disk.sameDirectories_erase ((hwritten (sibling path)).trans hdir))
        exact herase.trans (Disk.sameDirectories_put ((herase path).trans hpath) _)

end Rewriting

/-! ## Calls -/

/-- Adds rows to the file but breaks off after so many bytes of them. The ledger stays as it is. -/
def insertCut (rows : List Row) (bytes : Nat) (s : DurableStore) :
    Except StoreError Unit × DurableStore :=
  let written := s.disk.append? s.path ((encode rows).extract 0 bytes)
  (.error (.io .system), { s with disk := written.getD s.disk })

/-- What may be asked of a store that is open. -/
inductive Operation where
  | insert (rows : List Row)
  /-- An insertion that breaks off after so many bytes. -/
  | insertCut (rows : List Row) (bytes : Nat)
  | delete (d : Deletion) (cut : Option Interruption)
  | select (selection : Selection)
  | count (selection : Selection)
  | distinct (facet : Facet)
  | size

/-- What comes back. -/
inductive Reply where
  | done (outcome : Except StoreError Unit)
  | number (outcome : Except StoreError Nat)
  | rows (outcome : Except StoreError (List Row))
  | texts (outcome : Except StoreError (List String))
  /-- The store could not be opened before. -/
  | notOpen

/-- The reply of an open store to an operation, and the store afterwards. -/
def Operation.perform (s : DurableStore) : Operation → Reply × DurableStore
  | .insert rows => (DurableStore.insertMany rows s).map .done id
  | .insertCut rows bytes => (DurableStore.insertCut rows bytes s).map .done id
  | .delete d cut => (deleteCut d cut s).map .number id
  | .select selection => (.rows (Store.select selection s), s)
  | .count selection => (.number (Store.count selection s), s)
  | .distinct facet => (.texts (Store.distinct facet s), s)
  | .size => (.number (Store.size s), s)

/-- A store in use: it is open, or it could not be opened again. -/
inductive Session where
  | opened (s : DurableStore)
  | closed (disk : Disk)

/-- The disk at hand. -/
def Session.disk : Session → Disk
  | opened s => s.disk
  | closed disk => disk

/-- The rows in memory, if the store is open. -/
def Session.rows? : Session → Option (List Row)
  | opened s => some s.ledger.oldestFirst
  | closed _ => none

/-- Something done with a store in use: an operation, or closing it and opening it again. -/
inductive Call where
  | operation (o : Operation)
  | reopen

/-- The reply to a call, and what it leaves. The store is opened again as it was opened first. -/
def Call.perform (directory : Path) (route : Route) : Call → Session → Reply × Session
  | .operation o, .opened s => (o.perform s).map id .opened
  | .operation _, .closed disk => (.notOpen, .closed disk)
  | .reopen, session =>
    match openRoute directory route session.disk with
    | (.ok s, _) => (.done (.ok ()), .opened s)
    | (.error e, disk) => (.done (.error e), .closed disk)

/-- The replies to a run of calls, and what it leaves. -/
def perform (directory : Path) (route : Route) : List Call → Session → List Reply × Session
  | [], session => ([], session)
  | call :: rest, session =>
    let (reply, session) := call.perform directory route session
    (perform directory route rest session).map (reply :: ·) id

/-! ## Stores that cannot be told apart -/

/-- Two disks on which nothing but files has come and gone since a store was first opened, and that
    agree everywhere but at the file beside the store's own. -/
structure DisksAlike (s₀ : DurableStore) (a b : Disk) : Prop where
  directories : SameDirectories s₀.disk a
  agree : AgreeBut (sibling s₀.path) a b

/-- Two stores at the same path with the same rows on such disks. -/
structure StoresAlike (s₀ a b : DurableStore) : Prop where
  left : a.path = s₀.path
  right : b.path = s₀.path
  ledger_eq : b.ledger = a.ledger
  disks : DisksAlike s₀ a.disk b.disk

/-- Two stores in use, both open or both not, that differ at most in the file beside. -/
inductive Alike (s₀ : DurableStore) : Session → Session → Prop where
  | opened {a b : DurableStore} (h : StoresAlike s₀ a b) : Alike s₀ (.opened a) (.opened b)
  | closed {a b : Disk} (h : DisksAlike s₀ a b) : Alike s₀ (.closed a) (.closed b)

section Alike

variable {directory : Path} {route : Route} {s₀ : DurableStore} {x y : Session} {a b : DurableStore}

theorem Alike.disks (h : Alike s₀ x y) : DisksAlike s₀ x.disk y.disk := by
  cases h with
  | opened h => exact h.disks
  | closed h => exact h

theorem Opened.sibling_ne (ho : Opened directory route s₀) : s₀.path ≠ sibling s₀.path :=
  (DurableStore.sibling_ne
    (Disk.ne_nil_of_isDirectory (Disk.isDirectory_of_writable ho.writable))).symm

theorem DisksAlike.read?_eq (h : DisksAlike s₀ a.disk b.disk) (ho : Opened directory route s₀) :
    b.disk.read? s₀.path = a.disk.read? s₀.path :=
  h.agree.read?_eq ho.sibling_ne

theorem DisksAlike.put {a b : Disk} (h : DisksAlike s₀ a b) (ho : Opened directory route s₀)
    (content : ByteArray) :
    DisksAlike s₀ (a.put s₀.path (.file content)) (b.put s₀.path (.file content)) := by
  have hdir : a.isDirectory s₀.path = false :=
    (h.directories s₀.path).trans (Disk.isDirectory_of_writable ho.writable)
  exact ⟨h.directories.trans (Disk.sameDirectories_put hdir content), h.agree.put hdir content⟩

theorem StoresAlike.append (h : StoresAlike s₀ a b) (ho : Opened directory route s₀)
    (bytes : ByteArray) :
    ∃ disk disk', a.disk.append? a.path bytes = some disk ∧
      b.disk.append? b.path bytes = some disk' ∧ DisksAlike s₀ disk disk' := by
  have hw : a.disk.writable s₀.path = true :=
    (h.disks.directories.writable_eq _).trans ho.writable
  have hw' : b.disk.writable s₀.path = true := (h.disks.agree.directories.writable_eq _).trans hw
  rw [h.left, h.right]
  refine ⟨_, _, if_pos hw, if_pos hw', ?_⟩
  rw [h.disks.read?_eq ho]
  exact h.disks.put ho _

/-- **An operation cannot tell the stores apart.** -/
theorem StoresAlike.perform (h : StoresAlike s₀ a b) (ho : Opened directory route s₀)
    (o : Operation) :
    (o.perform b).1 = (o.perform a).1 ∧ StoresAlike s₀ (o.perform a).2 (o.perform b).2 := by
  cases o with
  | insert rows =>
    obtain ⟨disk, disk', ha, hb, hdisks⟩ := h.append ho (encode rows)
    simp only [Operation.perform, DurableStore.insertMany, ha, hb]
    exact ⟨rfl, h.left, h.right, congrArg (·.insertMany rows) h.ledger_eq, hdisks⟩
  | insertCut rows bytes =>
    obtain ⟨disk, disk', ha, hb, hdisks⟩ := h.append ho ((encode rows).extract 0 bytes)
    simp only [Operation.perform, DurableStore.insertCut, ha, hb]
    exact ⟨rfl, h.left, h.right, h.ledger_eq, hdisks⟩
  | delete d cut =>
    simp only [Operation.perform, deleteCut, h.ledger_eq, h.left, h.right]
    split
    · exact ⟨rfl, h⟩
    · obtain ⟨hreply, hagree⟩ :=
        rewrite_agree h.disks.agree (a.ledger.survivors d).oldestFirst cut
      have hdirs := h.disks.directories.trans
        (rewrite_directories s₀.path (a.ledger.survivors d).oldestFirst cut a.disk)
      generalize rewrite s₀.path (a.ledger.survivors d).oldestFirst cut a.disk = outa at *
      generalize rewrite s₀.path (a.ledger.survivors d).oldestFirst cut b.disk = outb at *
      obtain ⟨outcome, disk⟩ := outa
      obtain ⟨outcome', disk'⟩ := outb
      obtain rfl : outcome' = outcome := hreply
      cases outcome' with
      | ok u => exact ⟨rfl, rfl, rfl, rfl, hdirs, hagree⟩
      | error e => exact ⟨rfl, rfl, rfl, rfl, hdirs, hagree⟩
  | select selection =>
    exact ⟨congrArg (fun l : Ledger => Reply.rows (.ok (l.select selection))) h.ledger_eq, h⟩
  | count selection =>
    exact ⟨congrArg (fun l : Ledger => Reply.number (.ok (l.count selection))) h.ledger_eq, h⟩
  | distinct facet =>
    exact ⟨congrArg (fun l : Ledger => Reply.texts (.ok (l.distinct facet))) h.ledger_eq, h⟩
  | size =>
    refine ⟨congrArg Reply.number ?_, h⟩
    change DurableStore.size b = DurableStore.size a
    rw [DurableStore.size, DurableStore.size, h.left, h.right, h.disks.read?_eq ho]

/-- **A call cannot tell the stores apart.** -/
theorem Alike.perform (h : Alike s₀ x y) (ho : Opened directory route s₀) (call : Call) :
    (call.perform directory route y).1 = (call.perform directory route x).1 ∧
      Alike s₀ (call.perform directory route x).2 (call.perform directory route y).2 := by
  cases call with
  | operation o =>
    cases h with
    | opened h =>
      obtain ⟨hreply, hstores⟩ := h.perform ho o
      exact ⟨hreply, .opened hstores⟩
    | closed h => exact ⟨rfl, .closed h⟩
  | reopen =>
    have hd := h.disks
    have hread := hd.agree.read?_eq ho.sibling_ne
    generalize hcontent : (x.disk.read? s₀.path).getD .empty = content
    have hx := openRoute_again ho hd.directories hcontent
    have hy := openRoute_again ho (hd.directories.trans hd.agree.directories)
      (hread ▸ hcontent)
    have hput := hd.put ho content
    simp only [Call.perform, hx, hy]
    cases decode content with
    | ok rows => exact ⟨rfl, .opened ⟨rfl, rfl, rfl, hput⟩⟩
    | error e => exact ⟨rfl, .closed hput⟩

theorem Alike.run (h : Alike s₀ x y) (ho : Opened directory route s₀) (calls : List Call) :
    (DurableStore.perform directory route calls y).1 =
        (DurableStore.perform directory route calls x).1 ∧
      Alike s₀ (DurableStore.perform directory route calls x).2
        (DurableStore.perform directory route calls y).2 := by
  induction calls generalizing x y with
  | nil => exact ⟨rfl, h⟩
  | cons call rest ih =>
    obtain ⟨hreply, halike⟩ := h.perform ho call
    obtain ⟨hreplies, hlast⟩ := ih halike
    exact ⟨List.cons_eq_cons.2 ⟨hreply, hreplies⟩, hlast⟩

theorem Alike.seen (h : Alike s₀ x y) (ho : Opened directory route s₀) :
    y.rows? = x.rows? ∧ y.disk.read? s₀.path = x.disk.read? s₀.path := by
  refine ⟨?_, h.disks.agree.read?_eq ho.sibling_ne⟩
  cases h with
  | opened h => exact congrArg (fun l : Ledger => some l.oldestFirst) h.ledger_eq
  | closed h => rfl

theorem StoresAlike.refl (s₀ : DurableStore) : StoresAlike s₀ s₀ s₀ :=
  ⟨rfl, rfl, rfl, SameDirectories.refl _, AgreeBut.refl _ _⟩

end Alike

/-! ## Deletions that fail -/

variable {directory : Path} {route : Route} {disk disk' : Disk} {cut : Option Interruption}
variable {s₀ s s' : DurableStore}

theorem deleteCut_cut (h : cut ≠ none) {d : Deletion} (hits : s.ledger.hitCount d ≠ 0) :
    ∃ e, (deleteCut d cut s).1 = .error e := by
  obtain ⟨e, he⟩ := rewrite_cut h s.path (s.ledger.survivors d).oldestFirst s.disk
  refine ⟨e, ?_⟩
  simp only [deleteCut, if_neg hits]
  generalize rewrite s.path (s.ledger.survivors d).oldestFirst cut s.disk = out at he ⊢
  obtain ⟨outcome, disk⟩ := out
  obtain rfl : outcome = .error e := he
  rfl

/-- A deletion that fails touches nothing but the file beside the store's own. -/
theorem deleteCut_error {d : Deletion} {e : StoreError} (h : deleteCut d cut s = (.error e, s')) :
    s'.ledger = s.ledger ∧ s'.path = s.path ∧ AgreeBut (sibling s.path) s.disk s'.disk := by
  obtain ⟨hledger, hpath⟩ := deleteCut_error_ledger h
  refine ⟨hledger, hpath, ?_⟩
  unfold deleteCut at h
  split at h
  · cases h
  · simp only at h
    split at h
    · cases h
    · rename_i hrewrite
      cases h
      exact rewrite_error hrewrite

/-- **A deletion that fails changes nothing.** In a store that any calls have led to, failed ones
and restarts included, a deletion that hits a row fails wherever its rewriting breaks off. A
deletion that fails leaves the rows in memory and the bytes of the file as they were, and every call
from then on, be it a restart or another deletion, gives the reply and leaves the rows and the file
that it would have without the failed deletion. The file that a rewriting writes first is never the
store's own. -/
theorem failed_delete_unseen (h : openRoute directory route disk = (.ok s₀, disk'))
    (before : List Call) (hs : (perform directory route before (.opened s₀)).2 = .opened s) :
    (∀ path : Path, path ≠ [] → sibling path ≠ path) ∧
    (∀ d cut, cut ≠ none → s.ledger.hitCount d ≠ 0 → ∃ e, (deleteCut d cut s).1 = .error e) ∧
    ∀ d cut e s', deleteCut d cut s = (.error e, s') →
      s'.ledger = s.ledger ∧ s'.path = s.path ∧ s'.disk.read? s.path = s.disk.read? s.path ∧
      ∀ later : List Call,
        (perform directory route later (.opened s')).1 =
          (perform directory route later (.opened s)).1 ∧
        (perform directory route later (.opened s')).2.rows? =
          (perform directory route later (.opened s)).2.rows? ∧
        (perform directory route later (.opened s')).2.disk.read? s.path =
          (perform directory route later (.opened s)).2.disk.read? s.path := by
  obtain ⟨ho, -⟩ := openRoute_spec h
  -- The run that led to the store, compared with itself, tells where the store is.
  obtain ⟨-, hself⟩ := (Alike.opened (StoresAlike.refl s₀)).run ho before
  rw [hs] at hself
  cases hself with
  | opened hself =>
    refine ⟨fun path hpath => sibling_ne hpath, fun d cut hcut hits => deleteCut_cut hcut hits,
      fun d cut e s' hdelete => ?_⟩
    obtain ⟨hledger, hpath, hagree⟩ := deleteCut_error hdelete
    rw [hself.left] at hpath hagree ⊢
    refine ⟨hledger, hpath, hagree.read?_eq ho.sibling_ne, fun later => ?_⟩
    have halike : Alike s₀ (.opened s) (.opened s') :=
      .opened ⟨hself.left, hpath, hledger, hself.disks.directories, hagree⟩
    obtain ⟨hreplies, hlast⟩ := halike.run ho later
    exact ⟨hreplies, hlast.seen ho⟩

/-- A deletion of the only row breaks off after three bytes; a restart and a deletion that goes
through are answered as if it had not been tried. -/
theorem failed_delete_unseen_three_bytes :
    ∃ s₀ s s' e, openRoute [] ⟨true, [.into "logs.jsonl"], false, 11, 1⟩
        ⟨[(["logs.jsonl"], .file .empty)]⟩ = (.ok s₀, ⟨[(["logs.jsonl"], .file .empty)]⟩) ∧
      (perform [] ⟨true, [.into "logs.jsonl"], false, 11, 1⟩
        [.operation (.insert [⟨⟨"1", ⟨"2024"⟩, "up\n", "info", "api"⟩, "{}"⟩])]
        (.opened s₀)).2 = .opened s ∧
      deleteCut .all (some (.write 3)) s = (.error e, s') ∧
      s'.ledger = ⟨[⟨⟨"1", ⟨"2024"⟩, "up\n", "info", "api"⟩, "{}"⟩]⟩ ∧
      (perform [] ⟨true, [.into "logs.jsonl"], false, 11, 1⟩
        [.reopen, .operation (.delete .all none), .operation .size] (.opened s')).1 =
      (perform [] ⟨true, [.into "logs.jsonl"], false, 11, 1⟩
        [.reopen, .operation (.delete .all none), .operation .size] (.opened s)).1 := by
  have hopen := openRoute_root decode_empty
  have hinsert : ∀ row, Ledger.insertMany (.ofRows []) [row] = ⟨[row]⟩ := fun row => by
    change Ledger.insert .empty row = _
    rw [Ledger.insert, Ledger.empty, Ledger.insertRow, bisect]
    rfl
  obtain ⟨-, hfails, hunseen⟩ := failed_delete_unseen hopen
    [.operation (.insert [⟨⟨"1", ⟨"2024"⟩, "up\n", "info", "api"⟩, "{}"⟩])] rfl
  obtain ⟨e, he⟩ := hfails .all (some (.write 3)) (by simp) (by rw [hinsert]; decide)
  obtain ⟨hledger, -, -, hlater⟩ := hunseen .all (some (.write 3)) e _ (Prod.ext he rfl)
  exact ⟨_, _, _, e, hopen, rfl, Prod.ext he rfl, hledger.trans (hinsert _), (hlater _).1⟩

end DurableStore

end Logbook
