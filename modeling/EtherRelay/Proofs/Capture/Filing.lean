import Mathlib.Data.List.Forall2
import EtherRelay.Capture.Directory
import EtherRelay.Proofs.Capture.Tapping

/-!
# Captures side by side

Several exporters of one folder are used in turns, and each of them writes at a position of its own
in the file that was made for it. `Directory.Grows` says what one of them does to the folder: the
other files stay as they are, and its own file gets no shorter. An exporter whose file nobody else
was given finds it as it left it, whatever the others did meanwhile.

Whether an exporter has its file for itself is up to the names of the interfaces. Two interfaces
share a file if their names are `Alike`, so names that differ are not enough.
-/

namespace EtherRelay.Capture

/-! ## Names -/

/-- Two names that differ in nothing but characters that a file name does not keep. -/
def Alike (a b : String) : Prop :=
  List.Forall₂ (fun c d => c = d ∨ (c.isAlphanum = false ∧ d.isAlphanum = false)) a.toList b.toList

theorem fileName_eq_iff {a b : String} : fileName a = fileName b ↔ Alike a b := by
  have hkept : ∀ c : Char, c.isAlphanum = true → c ≠ '_' := by
    rintro _ hc rfl
    exact absurd hc (by decide)
  have hplain : ∀ c d : Char,
      ((if c.isAlphanum then c else '_') = if d.isAlphanum then d else '_') ↔
        c = d ∨ (c.isAlphanum = false ∧ d.isAlphanum = false) := by
    intro c d
    have hc := hkept c
    have hd := hkept d
    grind
  rw [fileName, fileName, String.append_left_inj, ← String.toList_inj, String.toList_map,
    String.toList_map, ← List.forall₂_eq_eq_eq, List.forall₂_map_left_iff,
    List.forall₂_map_right_iff, Alike]
  simp only [hplain]

/-! ## Directories -/

namespace Directory

variable {d d' d'' : Directory} {name other : String} {bytes taken : Bytes} {alone : Prop}

theorem content?_insert (name : String) (content : Bytes) (files : List (String × Bytes))
    (other : String) :
    content? ⟨insert name content files⟩ other =
      if other = name then some content else content? ⟨files⟩ other := by
  induction files with
  | nil =>
    by_cases h : name = other
    · simp [content?, insert, h]
    · simp [content?, insert, h, Ne.symm h]
  | cons f files ih =>
    rw [insert]
    by_cases hf : f.1 = name
    · by_cases h : name = other
      · simp [content?, hf, h]
      · simp [content?, hf, h, Ne.symm h]
    · by_cases h : f.1 = other
      · subst h
        simp [content?, hf]
      · simpa [content?, List.find?_cons, hf, h] using ih

/-- An empty file stays empty if any file is made. -/
theorem content?_truncate_of_empty (h : d.content? other = some []) (name : String) :
    (d.truncate name).content? other = some [] := by
  rw [truncate, content?_insert]
  by_cases hname : other = name
  · rw [if_pos hname]
  · rwa [if_neg hname]

/-- A directory after something was written to one of its files. -/
structure Grows (d : Directory) (name : String) (d' : Directory) : Prop where
  other : ∀ other, other ≠ name → d'.content? other = d.content? other
  own : ∀ content, d.content? name = some content →
    ∃ content', d'.content? name = some content' ∧ content.length ≤ content'.length

theorem Grows.refl (d : Directory) (name : String) : d.Grows name d where
  other _ _ := rfl
  own content h := ⟨content, h, Nat.le_refl _⟩

theorem Grows.trans (h : d.Grows name d') (h' : d'.Grows name d'') : d.Grows name d'' where
  other other hne := (h'.other other hne).trans (h.other other hne)
  own content hcontent := by
    obtain ⟨content', hcontent', hle⟩ := h.own content hcontent
    obtain ⟨content'', hcontent'', hle'⟩ := h'.own content' hcontent'
    exact ⟨content'', hcontent'', Nat.le_trans hle hle'⟩

/-- A file that someone wrote `taken` to. It is just this if nobody else writes to it. -/
def Holds (alone : Prop) (d : Directory) (name : String) (taken : Bytes) : Prop :=
  ∃ content, d.content? name = some content ∧ taken.length ≤ content.length ∧
    (alone → content = taken)

/-- Another writer does not harm a file, unless it has the same one. -/
theorem Holds.grows (h : d.Holds alone name taken) (hgrows : d.Grows other d')
    (hother : alone → other ≠ name) : d'.Holds alone name taken := by
  obtain ⟨content, hcontent, hle, heq⟩ := h
  by_cases hsame : name = other
  · subst hsame
    obtain ⟨content', hcontent', hle'⟩ := hgrows.own content hcontent
    exact ⟨content', hcontent', Nat.le_trans hle hle', fun halone => absurd rfl (hother halone)⟩
  · exact ⟨content, (hgrows.other name hsame).trans hcontent, hle, heq⟩

/-- To go on where one stopped is to append, as long as nobody else writes to the file. -/
theorem Holds.writeAt (h : d.Holds alone name taken) (bytes : Bytes) :
    (d.writeAt name taken.length bytes).Holds alone name (taken ++ bytes) ∧
      d.Grows name (d.writeAt name taken.length bytes) := by
  obtain ⟨old, hold, hle, heq⟩ := h
  have hnew : (d.writeAt name taken.length bytes).content? name =
      some (old.take taken.length ++ bytes ++ old.drop (taken.length + bytes.length)) := by
    rw [Directory.writeAt, content?_insert, if_pos rfl, hold, Option.getD_some,
      Nat.sub_eq_zero_of_le hle, List.replicate_zero, List.append_nil]
  have hlength : (old.take taken.length ++ bytes ++
      old.drop (taken.length + bytes.length)).length =
        taken.length + bytes.length + (old.length - (taken.length + bytes.length)) := by
    rw [List.length_append, List.length_append, List.length_take_of_le hle, List.length_drop]
  refine ⟨⟨_, hnew, ?_, ?_⟩, ?_, ?_⟩
  · rw [hlength, List.length_append]
    omega
  · intro halone
    rw [heq halone, List.take_length, List.drop_of_length_le (Nat.le_add_right _ _),
      List.append_nil]
  · intro other hne
    rw [Directory.writeAt, content?_insert, if_neg hne]
  · intro content hcontent
    obtain rfl := Option.some.inj (hold.symm.trans hcontent)
    refine ⟨_, hnew, ?_⟩
    rw [hlength]
    omega

end Directory

/-! ## One exporter of a folder -/

/-- The account of a file of this name, for one who found the folder as `start`. Files have no
limit. -/
def OpenFile.budget (start : Directory) (name : String) (alone : Prop) :
    Device.Budget OpenFile where
  Took f taken limit := limit = none ∧ f.name = name ∧ f.position = taken.length ∧
    f.directory.Holds alone name taken ∧ start.Grows name f.directory
  length_le := by
    rintro f taken k ⟨h, -⟩
    nomatch h
  write_full := by
    rintro f taken bytes ⟨h, -⟩
    nomatch h
  write_open := by
    rintro f taken bytes limit ⟨rfl, rfl, hposition, hholds, hgrows⟩ - hne
    obtain ⟨hholds', hgrows'⟩ := hholds.writeAt bytes
    refine ⟨bytes.length, _, List.length_pos_iff.mpr hne, Nat.le_refl _, rfl, rfl, rfl, ?_, ?_, ?_⟩
    · rw [List.take_length, List.length_append, hposition]
    · rw [List.take_length, hposition]
      exact hholds'
    · rw [hposition]
      exact hgrows.trans hgrows'
  flush h := h

open Exporter (Operation tracks)

/-- An exporter that was given these frames, in the folder as it stands now: what it wrote is in
its file, and the rest of the capture is pending. -/
structure Files (alone : Prop) (d : Directory) (name : String) (frames : List Seen)
    (e : Exporter OpenFile) : Prop where
  name_eq : e.writer.device.name = name
  written : ∃ taken, e.writer.device.position = taken.length ∧ d.Holds alone name taken ∧
    taken ++ e.writer.pending = stream frames

namespace Files

variable {alone : Prop} {d d' : Directory} {name other : String} {frames : List Seen}
variable {e : Exporter OpenFile} {folder : Folder}

/-- The others do not disturb an exporter, unless they have the same file. -/
theorem grows (h : Files alone d name frames e) (hgrows : d.Grows other d')
    (hother : alone → other ≠ name) : Files alone d' name frames e := by
  obtain ⟨taken, hposition, hholds, hpending⟩ := h.written
  exact ⟨h.name_eq, taken, hposition, hholds.grows hgrows hother, hpending⟩

theorem stands (h : Files alone d name frames e) :
    (e.inDirectory d).Stands (OpenFile.budget d name alone) none frames := by
  obtain ⟨taken, hposition, hholds, hpending⟩ := h.written
  refine .whole ⟨taken, ?_, hpending⟩ fun k hk => nomatch hk
  exact ⟨rfl, h.name_eq, hposition, hholds, .refl d name⟩

theorem of_stands (h : e.Stands (OpenFile.budget d name alone) none frames) :
    Files alone e.directory name frames e ∧ d.Grows name e.directory := by
  cases h with
  | whole state =>
    obtain ⟨taken, ⟨-, hname, hposition, hholds, hgrows⟩, hpending⟩ := state
    exact ⟨⟨hname, taken, hposition, hholds, hpending⟩, hgrows⟩
  | jammed state =>
    obtain ⟨⟨_, hlimit, -⟩, -⟩ := state
    nomatch hlimit
  | severed state =>
    obtain ⟨⟨_, hlimit, -⟩, -⟩ := state
    nomatch hlimit

end Files

namespace Folder

variable {alone : Prop} {name : String} {frames : List Seen} {e : Exporter OpenFile}
variable {folder folder' : Folder}

/-- Do one thing with an exporter of the folder; what a flush answers is not looked at. -/
def perform (folder : Folder) (e : Exporter OpenFile) : Operation → Exporter OpenFile × Folder
  | .track ns frame => folder.track e ns frame
  | .flush => (folder.flush e).2

theorem perform_eq (folder : Folder) (e : Exporter OpenFile) (o : Operation) :
    let e' := (e.inDirectory folder.directory).perform o
    folder.perform e o = (e', { folder with directory := e'.directory }) := by
  cases o with
  | track ns frame => rfl
  | flush => rfl

theorem files_perform (h : Files alone folder.directory name frames e) (o : Operation) :
    Files alone (folder.perform e o).2.directory name (frames ++ tracks [o])
        (folder.perform e o).1 ∧
      folder.directory.Grows name (folder.perform e o).2.directory := by
  rw [perform_eq]
  exact Files.of_stands (h.stands.perform o)

/-- Closed, an exporter has written the whole capture. -/
theorem holds_close (h : Files alone folder.directory name frames e) :
    (folder.close e).directory.Holds alone name (stream frames) ∧
      folder.directory.Grows name (folder.close e).directory := by
  obtain ⟨-, -, -, hholds, hgrows⟩ := h.stands.complete.1
  exact ⟨hholds, hgrows⟩

/-- An exporter that has not written anything yet, to a file that is empty. -/
structure Fresh (d : Directory) (name : String) (e : Exporter OpenFile) : Prop where
  name_eq : e.writer.device.name = name
  position_eq : e.writer.device.position = 0
  pending_eq : e.writer.pending = stream []
  content_eq : d.content? name = some []

theorem Fresh.files {d : Directory} (h : Fresh d name e) (alone : Prop) :
    Files alone d name [] e where
  name_eq := h.name_eq
  written := ⟨[], h.position_eq, ⟨[], h.content_eq, Nat.le_refl _, fun _ => rfl⟩, h.pending_eq⟩

/-- Making an exporter empties its file, which harms no exporter that is as fresh. -/
theorem fresh_createExporter {interface : String}
    (h : folder.createExporter interface = (.ok e, folder')) :
    Fresh folder'.directory (fileName interface) e ∧
      ∀ {name e'}, Fresh folder.directory name e' → Fresh folder'.directory name e' := by
  rw [createExporter] at h
  split at h
  · nomatch (Prod.mk.inj h).1
  · obtain ⟨he, rfl⟩ := Prod.mk.inj h
    obtain rfl := Except.ok.inj he
    rw [Exporter.directory, Exporter.writer_create]
    refine ⟨⟨?_, ?_, ?_, ?_⟩, fun h' => ?_⟩
    · rw [Exporter.writer_create]
    · rw [Exporter.writer_create]
    · rw [Exporter.writer_create]
    · rw [Directory.truncate, Directory.content?_insert, if_pos rfl]
    · exact { h' with content_eq := Directory.content?_truncate_of_empty h'.content_eq _ }

/-- Make exporters for interfaces in order, up to the first one that cannot be made. -/
def createExporters (folder : Folder) :
    List String → Except CaptureError (List (Exporter OpenFile)) × Folder
  | [] => (.ok [], folder)
  | interface :: rest =>
    match folder.createExporter interface with
    | (.error e, folder) => (.error e, folder)
    | (.ok exporter, folder) =>
      match folder.createExporters rest with
      | (.error e, folder) => (.error e, folder)
      | (.ok exporters, folder) => (.ok (exporter :: exporters), folder)

theorem fresh_createExporters {names : List String} {exporters : List (Exporter OpenFile)}
    (h : folder.createExporters names = (.ok exporters, folder')) :
    exporters.length = names.length ∧
      (∀ {name e}, Fresh folder.directory name e → Fresh folder'.directory name e) ∧
      ∀ {k : Nat} {name : String}, names[k]? = some name →
        ∃ e, exporters[k]? = some e ∧ Fresh folder'.directory (fileName name) e := by
  induction names generalizing folder exporters with
  | nil =>
    obtain ⟨hexporters, rfl⟩ := Prod.mk.inj h
    obtain rfl := Except.ok.inj hexporters
    exact ⟨rfl, id, fun hk => nomatch hk⟩
  | cons interface rest ih =>
    rw [createExporters] at h
    rcases hfirst : folder.createExporter interface with ⟨made, middle⟩
    rw [hfirst] at h
    cases made with
    | error => nomatch (Prod.mk.inj h).1
    | ok exporter =>
      dsimp only at h
      rcases hrest : middle.createExporters rest with ⟨made, last⟩
      rw [hrest] at h
      cases made with
      | error => nomatch (Prod.mk.inj h).1
      | ok others =>
        obtain ⟨hexporters, rfl⟩ := Prod.mk.inj h
        obtain rfl := Except.ok.inj hexporters
        obtain ⟨hnew, hkeeps⟩ := fresh_createExporter hfirst
        obtain ⟨hlength, hkeeps', hfresh⟩ := ih hrest
        refine ⟨congrArg (· + 1) hlength, fun h => hkeeps' (hkeeps h), ?_⟩
        intro k name hk
        cases k with
        | zero =>
          obtain rfl := Option.some.inj hk
          exact ⟨exporter, rfl, hkeeps' hnew⟩
        | succ k => exact hfresh hk

theorem createExporter_of_create {interface : String} {tree : FileTree}
    (h : (folder.tree.create (Path.join folder.path (fileName interface))).toOption = some tree) :
    ∃ e folder', folder.createExporter interface = (.ok e, folder') ∧ folder'.tree = tree ∧
      folder'.path = folder.path := by
  simp only [createExporter]
  cases hcreate : folder.tree.create (Path.join folder.path (fileName interface)) with
  | error =>
    rw [hcreate] at h
    nomatch h
  | ok made =>
    rw [hcreate] at h
    exact ⟨_, _, rfl, Option.some.inj h, rfl⟩

/-- Two interfaces are given exporters if their files can be made one after the other. -/
theorem createExporters_of_create {a b : String} {tree tree' : FileTree}
    (ha : (folder.tree.create (Path.join folder.path (fileName a))).toOption = some tree)
    (hb : (tree.create (Path.join folder.path (fileName b))).toOption = some tree') :
    ∃ exporters folder', folder.createExporters [a, b] = (.ok exporters, folder') := by
  obtain ⟨e, middle, hfirst, rfl, hpath⟩ := createExporter_of_create ha
  rw [← hpath] at hb
  obtain ⟨e', last, hsecond, -, -⟩ := createExporter_of_create hb
  refine ⟨[e, e'], last, ?_⟩
  simp only [createExporters, hfirst, hsecond]

end Folder

/-! ## All exporters of a folder -/

/-- Exporters that are used side by side. -/
structure Session where
  folder : Folder
  exporters : List (Exporter OpenFile)

namespace Session

/-- Something that is done with one of the exporters. -/
abbrev Move := Nat × Operation

/-- Do one thing. -/
def step (s : Session) (m : Move) : Session :=
  match s.exporters[m.1]? with
  | none => s
  | some e =>
    let (e, folder) := s.folder.perform e m.2
    { folder, exporters := s.exporters.set m.1 e }

/-- Do several things in order. -/
def run (s : Session) (moves : List Move) : Session := moves.foldl step s

/-- Close exporters in order, and leave the folder. -/
def close (s : Session) (order : List Nat) : Folder :=
  order.foldl (fun folder k =>
    match s.exporters[k]? with
    | none => folder
    | some e => folder.close e) s.folder

/-- The frames that are tracked through an exporter. -/
def seenBy (k : Nat) (moves : List Move) : List Seen :=
  tracks (moves.filterMap fun m => if m.1 = k then some m.2 else none)

theorem seenBy_concat_self (moves : List Move) (k : Nat) (o : Operation) :
    seenBy k (moves ++ [(k, o)]) = seenBy k moves ++ tracks [o] := by
  have hone : [(k, o)].filterMap (fun m : Move => if m.1 = k then some m.2 else none) = [o] :=
    List.filterMap_cons_some (if_pos rfl)
  rw [seenBy, List.filterMap_append, hone, tracks, List.filterMap_append]
  rfl

theorem seenBy_concat_other {j k : Nat} (h : j ≠ k) (moves : List Move) (o : Operation) :
    seenBy k (moves ++ [(j, o)]) = seenBy k moves := by
  have hnone : [(j, o)].filterMap (fun m : Move => if m.1 = k then some m.2 else none) = [] :=
    List.filterMap_cons_none (if_neg h)
  rw [seenBy, List.filterMap_append, hnone, List.append_nil, seenBy]

/-- The file of an interface is that of no other one. -/
def Separate (names : List String) (k : Nat) : Prop :=
  ∀ j name other, names[k]? = some name → names[j]? = some other → j ≠ k →
    fileName other ≠ fileName name

/-- The exporter of an interface finds its file as it needs it. -/
def Filed (names : List String) (k : Nat) (exporters : List (Exporter OpenFile)) (d : Directory)
    (frames : List Seen) : Prop :=
  ∃ name e, names[k]? = some name ∧ exporters[k]? = some e ∧
    Files (Separate names k) d (fileName name) frames e

/-- The exporters of these interfaces, used as the moves say. -/
structure Kept (names : List String) (moves : List Move) (s : Session) : Prop where
  length_eq : s.exporters.length = names.length
  filed : ∀ k < names.length, Filed names k s.exporters s.folder.directory (seenBy k moves)

variable {names : List String} {moves : List Move} {s : Session} {k j : Nat} {name : String}

theorem kept_start {folder folder' : Folder} {exporters : List (Exporter OpenFile)}
    (h : folder.createExporters names = (.ok exporters, folder')) :
    Kept names [] { folder := folder', exporters } := by
  obtain ⟨hlength, -, hfresh⟩ := Folder.fresh_createExporters h
  refine ⟨hlength, fun k hk => ?_⟩
  have hname : names[k]? = some names[k] := List.getElem?_eq_getElem hk
  obtain ⟨e, he, hfresh⟩ := hfresh hname
  exact ⟨names[k], e, hname, he, hfresh.files _⟩

/-- What is done with one exporter does not disturb the others, unless they share a file. -/
theorem Filed.other {exporters : List (Exporter OpenFile)} {d d' : Directory}
    {frames : List Seen} (h : Filed names k exporters d frames) (hj : names[j]? = some name)
    (hne : j ≠ k) (hgrows : d.Grows (fileName name) d') : Filed names k exporters d' frames := by
  obtain ⟨own, e, hown, he, hfiles⟩ := h
  exact ⟨own, e, hown, he, hfiles.grows hgrows fun hseparate => hseparate j own name hown hj hne⟩

theorem Kept.step (h : Kept names moves s) (m : Move) : Kept names (moves ++ [m]) (s.step m) := by
  obtain ⟨k, o⟩ := m
  rw [Session.step]
  by_cases hk : k < names.length
  · obtain ⟨name, e, hname, he, hfiles⟩ := h.filed k hk
    obtain ⟨hfiles', hgrows⟩ := Folder.files_perform hfiles o
    simp only [he]
    refine ⟨List.length_set.trans h.length_eq, fun j hj => ?_⟩
    by_cases hsame : j = k
    · subst hsame
      have hlt : j < s.exporters.length := by rwa [h.length_eq]
      rw [seenBy_concat_self]
      exact ⟨name, _, hname, List.getElem?_set_self hlt, hfiles'⟩
    · rw [seenBy_concat_other (Ne.symm hsame)]
      obtain ⟨other, e', hother, he', hfiles⟩ := (h.filed j hj).other hname (Ne.symm hsame) hgrows
      refine ⟨other, e', hother, ?_, hfiles⟩
      rwa [List.getElem?_set_ne (Ne.symm hsame)]
  · -- Nothing happens, as there is no such exporter.
    have hnone : s.exporters[k]? = none := by
      rw [List.getElem?_eq_none_iff, h.length_eq]
      exact Nat.not_lt.mp hk
    simp only [hnone]
    refine ⟨h.length_eq, fun j hj => ?_⟩
    rw [seenBy_concat_other (by rintro rfl; exact hk hj)]
    exact h.filed j hj

theorem Kept.run (h : Kept names moves s) (more : List Move) :
    Kept names (moves ++ more) (s.run more) := by
  induction more generalizing moves s with
  | nil => rwa [List.append_nil]
  | cons m more ih =>
    rw [List.append_cons]
    exact ih (h.step m)

/-- If the exporters are closed one after another, one of them is closed at some time, and from
then on its file holds the whole capture. -/
theorem holds_close (frames : Nat → List Seen) {order : List Nat} (hnodup : order.Nodup)
    (hname : names[k]? = some name)
    (hopen : ∀ j ∈ order, Filed names j s.exporters s.folder.directory (frames j))
    (hk : k ∈ order ∨
      s.folder.directory.Holds (Separate names k) (fileName name) (stream (frames k))) :
    (s.close order).directory.Holds (Separate names k) (fileName name) (stream (frames k)) := by
  induction order generalizing s with
  | nil => exact hk.resolve_left List.not_mem_nil
  | cons j order ih =>
    obtain ⟨hnew, hnodup⟩ := List.nodup_cons.mp hnodup
    obtain ⟨other, e, hother, he, hfiles⟩ := hopen j List.mem_cons_self
    obtain ⟨hholds, hgrows⟩ := Folder.holds_close hfiles
    have hclose : s.close (j :: order) = close { s with folder := s.folder.close e } order := by
      rw [close, close, List.foldl_cons]
      simp only [he]
    rw [hclose]
    refine ih hnodup (fun i hi => ?_) ?_
    · have hne : j ≠ i := by
        rintro rfl
        exact hnew hi
      exact (hopen i (List.mem_cons_of_mem j hi)).other hother hne hgrows
    · by_cases hsame : k = j
      · subst hsame
        obtain rfl := Option.some.inj (hname.symm.trans hother)
        exact .inr hholds
      · rcases hk with hk | hk
        · exact .inl ((List.mem_cons.mp hk).resolve_left hsame)
        · exact .inr (hk.grows hgrows fun hseparate =>
            hseparate j name other hname hother (Ne.symm hsame))

/-- The file of one interface after any use of the exporters. -/
theorem holds_run_close {folder folder' : Folder} {exporters : List (Exporter OpenFile)}
    (h : folder.createExporters names = (.ok exporters, folder')) (hk : names[k]? = some name)
    (moves : List Move) {order : List Nat} (horder : order.Perm (List.range names.length)) :
    ((({ folder := folder', exporters } : Session).run moves).close order).directory.Holds
      (Separate names k) (fileName name) (stream (seenBy k moves)) := by
  have hkept := (kept_start h).run moves
  have hlt : k < names.length := (List.getElem?_eq_some_iff.mp hk).1
  rw [List.nil_append] at hkept
  refine holds_close (seenBy · moves) (horder.nodup_iff.mpr List.nodup_range) hk ?_ (.inl ?_)
  · intro j hj
    exact hkept.filed j (List.mem_range.mp (horder.mem_iff.mp hj))
  · exact horder.mem_iff.mpr (List.mem_range.mpr hlt)

variable {folder folder' : Folder} {exporters : List (Exporter OpenFile)} {other : String}

/-- An interface tracks a frame, and the file that it shares is too long for the other one, which
tracked none. -/
theorem spoiled_of_alike (h : folder.createExporters names = (.ok exporters, folder'))
    (hj : names[j]? = some other) (hne : j ≠ k) (halike : Alike other name) {order : List Nat}
    (horder : order.Perm (List.range names.length)) :
    ((({ folder := folder', exporters } : Session).run [(j, .track 0 [])]).close
      order).directory.content? (fileName name) ≠
        some (stream (seenBy k [(j, .track 0 [])])) := by
  intro hcaptured
  obtain ⟨content, hcontent, hle, -⟩ := holds_run_close h hj [(j, .track 0 [])] horder
  rw [fileName_eq_iff.mpr halike, hcaptured] at hcontent
  obtain rfl := Option.some.inj hcontent
  have hown : seenBy k [(j, .track 0 [])] = [] := seenBy_concat_other hne [] _
  have hother : seenBy j [(j, .track 0 [])] = [⟨0, []⟩] := seenBy_concat_self [] j _
  rw [hown, hother] at hle
  exact absurd hle (by decide +kernel)

/-- Any interfaces are given exporters of one folder, which are used in turns and then all closed.
The file of an interface holds just the capture of the frames that were tracked through its
exporter, whatever is done and however they are closed, if its name is not alike to any other one;
and if it is, there is a use that spoils the file. -/
theorem captured_iff_not_alike (h : folder.createExporters names = (.ok exporters, folder'))
    (hk : names[k]? = some name) :
    (∀ (moves : List Move) (order : List Nat), order.Perm (List.range names.length) →
      ((({ folder := folder', exporters } : Session).run moves).close order).directory.content?
        (fileName name) = some (stream (seenBy k moves))) ↔
    ∀ j other, names[j]? = some other → j ≠ k → ¬ Alike other name := by
  have hall : (List.range names.length).Perm (List.range names.length) := List.Perm.refl _
  constructor
  · intro hcaptured j other hj hne halike
    exact spoiled_of_alike h hj hne halike hall (hcaptured _ _ hall)
  · intro hapart moves order horder
    obtain ⟨content, hcontent, -, heq⟩ := holds_run_close h hk moves horder
    rw [hcontent, heq]
    intro j name' other hname' hj hne hsame
    obtain rfl := Option.some.inj (hk.symm.trans hname')
    exact hapart j other hj hne (fileName_eq_iff.mp hsame)

/-- An empty folder for captures. -/
def captures : Folder := { path := "captures", tree := { folders := [["captures"]] } }

/-- Two interfaces with the addresses of their devices as names, one of which is used between two
uses of the other. -/
theorem captured_iff_not_alike_addresses :
    ∃ exporters folder,
      captures.createExporters ["0000:03:00.0", "0000:03:00.1"] = (.ok exporters, folder) ∧
      ((({ folder, exporters } : Session).run [(0, .track 1000 [1, 2]), (1, .track 2000 [3]),
        (0, .track 3000 [4])]).close [1, 0]).directory.content? "0000_03_00_0.pcapng" =
          some (stream [⟨1000, [1, 2]⟩, ⟨3000, [4]⟩]) := by
  let first : FileTree :=
    { captures.tree with files := [["captures", "0000_03_00_0.pcapng"]] }
  let both : FileTree :=
    { captures.tree with files := first.files ++ [["captures", "0000_03_00_1.pcapng"]] }
  have hfirst : (captures.tree.create
      (Path.join captures.path (fileName "0000:03:00.0"))).toOption = some first := by
    decide +kernel
  have hboth : (first.create
      (Path.join captures.path (fileName "0000:03:00.1"))).toOption = some both := by
    decide +kernel
  obtain ⟨exporters, folder, h⟩ := Folder.createExporters_of_create hfirst hboth
  have hname : fileName "0000:03:00.0" = "0000_03_00_0.pcapng" := by decide +kernel
  have hother : fileName "0000:03:00.1" = "0000_03_00_1.pcapng" := by decide +kernel
  have hapart : ∀ j other, ["0000:03:00.0", "0000:03:00.1"][j]? = some other → j ≠ 0 →
      ¬ Alike other "0000:03:00.0" := by
    intro j other hj hne
    obtain rfl : j = 1 := by
      have : j < 2 := (List.getElem?_eq_some_iff.mp hj).1
      omega
    obtain rfl := Option.some.inj hj
    rw [← fileName_eq_iff, hname, hother]
    decide
  have hfile := (captured_iff_not_alike h rfl).mpr hapart
    [(0, .track 1000 [1, 2]), (1, .track 2000 [3]), (0, .track 3000 [4])] [1, 0]
    (List.Perm.swap 0 1 [])
  rw [hname] at hfile
  exact ⟨exporters, folder, h, hfile⟩

/-- Names that differ are not enough. -/
theorem exists_ne_spoiled :
    ∃ exporters folder moves,
      captures.createExporters ["a:b", "a_b"] = (.ok exporters, folder) ∧
      ["a:b", "a_b"].Nodup ∧
      ((({ folder, exporters } : Session).run moves).close [0, 1]).directory.content?
        (fileName "a_b") ≠ some (stream (seenBy 1 moves)) := by
  let tree : FileTree := { captures.tree with files := [["captures", "a_b.pcapng"]] }
  have hfirst : (captures.tree.create
      (Path.join captures.path (fileName "a:b"))).toOption = some tree := by decide +kernel
  have hagain : (tree.create
      (Path.join captures.path (fileName "a_b"))).toOption = some tree := by decide +kernel
  obtain ⟨exporters, folder, h⟩ := Folder.createExporters_of_create hfirst hagain
  have hcolon : fileName "a:b" = "a_b.pcapng" := by decide +kernel
  have hunderscore : fileName "a_b" = "a_b.pcapng" := by decide +kernel
  have halike : Alike "a:b" "a_b" := fileName_eq_iff.mp (hcolon.trans hunderscore.symm)
  refine ⟨exporters, folder, [(0, .track 0 [])], h, by decide, ?_⟩
  exact spoiled_of_alike h rfl Nat.zero_ne_one halike (List.Perm.refl _)

end Session

end EtherRelay.Capture
