import Mathlib.Data.List.Infix
import TlaDigest.FileTree

/-!
# Writing to a file tree

A write goes to the place that its path names (`write_cases`). Behind it the place holds the new
bytes, every other place holds what it held, the directories are the same, and every path leads where
it led before (`Replaced`): the place is no link, since a path is followed over all links, and a file
below a directory makes no new one. So a file is read as it was last written, in whatever spelling,
and no other file changes (`read_of_write`). `read_writeAll` carries this through a row of writes.

Devices are left out of the last two statements: what is written to one is lost.
-/

namespace TlaDigest.FileTree

variable {t t' : FileTree} {place other : Place}

/-! ### Putting an entry -/

@[simp] theorem entry?_put_self (t : FileTree) (place : Place) (entry : FileEntry) :
    FileTree.entry? (t.put place entry) place = some entry := by
  have hgone : (t.entries.filter fun e => e.1 != place).lookup place = none := by
    rw [List.lookup_eq_none_iff]
    intro e he
    have hne := (List.mem_filter.mp he).2
    rw [bne_comm] at hne
    simpa using hne
  simp [ entry?, put, List.lookup_append, hgone]

@[simp] theorem entry?_put_of_ne (t : FileTree) (entry : FileEntry) (h : other ≠ place) :
    FileTree.entry? (t.put place entry) other = t.entry? other := by
  have hkept : (t.entries.filter fun e => e.1 != place).lookup other = t.entries.lookup other := by
    induction t.entries with
    | nil => rfl
    | cons e entries ih =>
      by_cases hplace : e.1 = place
      · have hother : (other == e.1) = false := by simpa [hplace] using h
        rw [List.filter_cons_of_neg (by simp [hplace]), ih, List.lookup_cons, hother]
      · rw [List.filter_cons_of_pos (by simpa using hplace), List.lookup_cons, List.lookup_cons, ih]
  have hnew : [(place, entry)].lookup other = none := by simpa using h
  rw [ entry?, put, List.lookup_append, hkept, hnew, Option.or_none, entry?]

/-! ### Directories -/

/-- What makes a place a directory. -/
theorem isDirectory_iff (t : FileTree) (place : Place) :
    t.isDirectory place = true ↔ place = [] ∨ t.entry? place = some .directory ∨
      ∃ e ∈ t.entries, place <+: e.1 ∧ place.length < e.1.length := by
  simp [isDirectory, or_assoc]

theorem mem_of_entry? {entry : FileEntry} (h : t.entry? place = some entry) :
    (place, entry) ∈ t.entries := by
  obtain ⟨before, after, hsplit, -⟩ := List.lookup_eq_some_iff.mp h
  rw [hsplit]
  simp

/-- Every directory lies in directories. -/
theorem isDirectory_of_below (habove : other <+: place) (h : t.isDirectory place = true) :
    t.isDirectory other = true := by
  rw [isDirectory_iff] at h ⊢
  by_cases hsame : other = place
  · rwa [hsame]
  have hshorter : other.length < place.length :=
    lt_of_le_of_ne habove.length_le fun hlength => hsame (habove.eq_of_length hlength)
  right; right
  rcases h with hroot | hentry | ⟨e, he, hbelow, hlength⟩
  · simp [hroot] at hshorter
  · exact ⟨_, mem_of_entry? hentry, habove, hshorter⟩
  · exact ⟨e, he, habove.trans hbelow, hshorter.trans hlength⟩

/-- A file that is put into a directory makes no directory and takes none away. -/
theorem isDirectory_put {entry : FileEntry} (hplace : t.isDirectory place = false)
    (hparent : t.isDirectory place.dropLast = true) (hentry : entry ≠ .directory) (other : Place) :
    (t.put place entry).isDirectory other = t.isDirectory other := by
  have hnot : ¬ t.isDirectory place = true := by simp [hplace]
  rw [Bool.eq_iff_iff, isDirectory_iff]
  constructor
  · rintro (hroot | hmade | ⟨e, he, hbelow, hlength⟩)
    · exact (isDirectory_iff t other).mpr (.inl hroot)
    · by_cases hsame : other = place
      · rw [hsame, entry?_put_self] at hmade
        exact absurd (Option.some.inj hmade) hentry
      · rw [entry?_put_of_ne t entry hsame] at hmade
        exact (isDirectory_iff t other).mpr (.inr (.inl hmade))
    · rcases List.mem_append.mp he with hold | hnew
      · exact (isDirectory_iff t other).mpr
          (.inr (.inr ⟨e, List.mem_of_mem_filter hold, hbelow, hlength⟩))
      · -- what lies above the new file lies above or at its directory
        rw [List.mem_singleton.mp hnew] at hbelow hlength
        have habove : other <+: place.dropLast := by
          rw [List.prefix_iff_eq_take] at hbelow ⊢
          rw [List.dropLast_eq_take, List.take_take, min_eq_left (by simp at hlength ⊢; omega)]
          exact hbelow
        exact isDirectory_of_below habove hparent
  · intro h
    rcases (isDirectory_iff t other).mp h with hroot | hmade | ⟨e, he, hbelow, hlength⟩
    · exact .inl hroot
    · have hne : other ≠ place := by
        rintro rfl
        exact hnot h
      exact .inr (.inl ((entry?_put_of_ne t entry hne).trans hmade))
    · by_cases hsame : e.1 = place
      · exact .inr (.inr ⟨(place, entry), by simp [put], hsame ▸ hbelow, hsame ▸ hlength⟩)
      · exact .inr (.inr ⟨e, by simp [put, he, hsame], hbelow, hlength⟩)

/-! ### Following paths -/

/-- One step along a path. -/
theorem follow_cons (t : FileTree) (last : Bool) (links : Nat) (start : Place)
    (segment : List Char) (rest : List (List Char)) :
    t.follow last links start (segment :: rest) =
      if t.isDirectory start then
        if Path.isIgnored segment then t.follow last links start rest
        else if segment = ['.', '.'] then t.follow last links start.dropLast rest
        else if maxName < (Text.Utf8.encode segment).length then .error .nameTooLong
        else
          match t.entry? (start ++ [segment]), links with
          | some (.link target), links =>
            if rest.isEmpty && !last then .ok (start ++ [segment])
            else
              match links with
              | 0 => .error .linkLoop
              | links + 1 =>
                t.follow last links (if isRooted target then [] else start) (target.segments ++ rest)
          | _, links => t.follow last links (start ++ [segment]) rest
      else .error (t.blocked start) :=
  follow.eq_def t last links start (segment :: rest)

/-- A place where the following of a path may end: a directory, or no link. -/
def Ends (t : FileTree) (place : Place) : Prop :=
  t.isDirectory place = true ∨ ∀ target, t.entry? place ≠ some (.link target)

/-- Links at the end of a path are followed as well. -/
theorem ends_follow {links : Nat} {start : Place} {segments : List (List Char)}
    (hstart : t.Ends start) (h : t.follow true links start segments = .ok place) :
    t.Ends place := by
  fun_induction follow t true links start segments with
  | case1 links start =>
    cases h
    exact hstart
  | case2 links start segment rest hdirectory hignored ih => exact ih hstart h
  | case3 links start rest hdirectory hignored ih =>
    exact ih (.inl (isDirectory_of_below (List.dropLast_prefix start) hdirectory)) h
  | case4 => cases h
  | case5 => simp_all
  | case6 => cases h
  | case7 start segment rest hdirectory hignored hup hname target hlink hlast links ih =>
    refine ih (.inl ?_) h
    split
    · simp [isDirectory]
    · exact hdirectory
  | case8 start segment rest hdirectory hignored hup hname links hlink ih =>
    exact ih (.inr hlink) h
  | case9 => cases h

/-- Where the directories and the links are the same, every path leads to the same place. -/
theorem follow_congr (hdirectory : ∀ p, t'.isDirectory p = t.isDirectory p)
    (hlink : ∀ p target, t'.entry? p = some (.link target) ↔ t.entry? p = some (.link target))
    {last : Bool} {links : Nat} {start : Place} {segments : List (List Char)}
    (h : t.follow last links start segments = .ok place) :
    t'.follow last links start segments = .ok place := by
  fun_induction follow t last links start segments with
  | case1 links start => rw [follow, h]
  | case2 links start segment rest hstart hignored ih =>
    rw [follow_cons, hdirectory, if_pos hstart, if_pos hignored]
    exact ih h
  | case3 links start rest hstart hignored ih =>
    rw [follow_cons, hdirectory, if_pos hstart, if_neg hignored, if_pos rfl]
    exact ih h
  | case4 => cases h
  | case5 start segment rest hstart hignored hup hname target links htarget hlast =>
    rw [follow_cons, hdirectory, if_pos hstart, if_neg hignored, if_neg hup, if_neg hname,
      (hlink _ _).mpr htarget]
    exact (if_pos hlast).trans h
  | case6 => cases h
  | case7 start segment rest hstart hignored hup hname target htarget hlast links ih =>
    rw [follow_cons, hdirectory, if_pos hstart, if_neg hignored, if_neg hup, if_neg hname,
      (hlink _ _).mpr htarget]
    exact (if_neg hlast).trans (ih h)
  | case8 start segment rest hstart hignored hup hname links hnone ih =>
    rw [follow_cons, hdirectory, if_pos hstart, if_neg hignored, if_neg hup, if_neg hname]
    split
    · next target htarget => exact absurd ((hlink _ _).mp htarget) (hnone target)
    · exact ih h
  | case9 => cases h

theorem ends_of_locate {path : Path} (h : t.locate path = .ok place) : t.Ends place := by
  unfold locate locateWith at h
  split at h
  · cases h
  · -- a path has a first segment, and that is sought in a directory
    have hdirectory : t.isDirectory (t.origin path) = true := by
      obtain ⟨segment, rest, hsegments⟩ :=
        List.exists_cons_of_ne_nil (Text.splitOn_ne_nil '/' path.text.toList)
      rw [Path.segments, hsegments, follow_cons] at h
      by_contra hnot
      rw [if_neg hnot] at h
      cases h
    exact ends_follow (.inl hdirectory) h

theorem locate_congr (hworking : t'.working = t.working)
    (hdirectory : ∀ p, t'.isDirectory p = t.isDirectory p)
    (hlink : ∀ p target, t'.entry? p = some (.link target) ↔ t.entry? p = some (.link target))
    (path : Path) (place : Place) : t'.locate path = .ok place ↔ t.locate path = .ok place := by
  have horigin : t'.origin path = t.origin path := by rw [origin, origin, hworking]
  unfold locate locateWith
  cases misspelt? path with
  | some cause => simp
  | none =>
    rw [horigin]
    exact ⟨follow_congr (fun p => (hdirectory p).symm) fun p target => (hlink p target).symm,
      follow_congr hdirectory hlink⟩

/-! ### Writing -/

/-- One tree is the other with new bytes at a place, and otherwise as it was. -/
structure Replaced (t t' : FileTree) (place : Place) (bytes : List UInt8) : Prop where
  held : ∃ program, t'.entry? place = some (.file bytes program)
  others : ∀ other, other ≠ place → t'.entry? other = t.entry? other
  directories : ∀ other, t'.isDirectory other = t.isDirectory other
  paths : ∀ path other, t'.locate path = .ok other ↔ t.locate path = .ok other

theorem replaced_put {path : Path} (hpath : t.locate path = .ok place)
    (hplace : t.isDirectory place = false) (hparent : t.isDirectory place.dropLast = true)
    (bytes : List UInt8) (program : Bool) :
    t.Replaced (t.put place (.file bytes program)) place bytes := by
  have hdirectories : ∀ other, (t.put place (.file bytes program)).isDirectory other =
      t.isDirectory other := isDirectory_put hplace hparent (by simp)
  refine ⟨⟨program, by simp⟩, fun other hother => entry?_put_of_ne t _ hother, hdirectories, ?_⟩
  refine locate_congr rfl hdirectories fun p target => ?_
  by_cases hp : p = place
  · -- neither the new file nor what it replaces is a link
    have hno : t.entry? place ≠ some (.link target) := by
      rcases ends_of_locate hpath with hdirectory | hno
      · simp [hplace] at hdirectory
      · exact hno target
    rw [hp, entry?_put_self]
    simp [hno]
  · rw [entry?_put_of_ne t _ hp]

/-- **What a write does.** It replaces the bytes at its place, or loses them in a device. -/
theorem write_cases {path : Path} {bytes : List UInt8} (h : t.write path bytes = .ok t') :
    ∃ place, t.locate path = .ok place ∧
      (t.Replaced t' place bytes ∨ t' = t ∧ ∃ d, t.entry? place = some (.device d)) := by
  unfold write at h
  split at h
  · cases h
  · next place hpath =>
    refine ⟨place, hpath, ?_⟩
    split at h
    · cases h
    · next hplace =>
      rw [Bool.not_eq_true] at hplace
      split at h
      · next hparent =>
        split at h
        · cases h
          exact .inl (replaced_put hpath hplace hparent _ _)
        · next d hdevice =>
          split at h
          · cases h
          · cases h
            exact .inr ⟨rfl, d, hdevice⟩
        · cases h
          exact .inl (replaced_put hpath hplace hparent _ _)
      · cases h

theorem Replaced.read_eq {path : Path} {bytes : List UInt8} (h : t.Replaced t' place bytes)
    (hpath : t'.locate path = .ok place) : t'.read path = .ok bytes := by
  obtain ⟨program, hheld⟩ := h.held
  simp only [read, hpath, file?, hheld]

theorem read_congr {path : Path} (hpath : t.locate path = .ok place)
    (hpath' : t'.locate path = .ok place) (hentry : t'.entry? place = t.entry? place)
    (hdirectory : t'.isDirectory place = t.isDirectory place) : t'.read path = t.read path := by
  have hfile : t'.file? place = t.file? place := by rw [file?, file?, hentry]
  simp only [read, hpath, hpath', hfile, hdirectory]

/-- **A file is read as it was written.** Every path that leads to the place of the write gives the
    new bytes, and every path that leads elsewhere gives what it gave before. -/
theorem read_of_write {path : Path} {bytes : List UInt8} (hpath : t.locate path = .ok place)
    (hdevice : ∀ d, t.entry? place ≠ some (.device d)) (h : t.write path bytes = .ok t')
    {other : Path} {there : Place} (hother : t.locate other = .ok there) :
    t'.read other = if there = place then .ok bytes else t.read other := by
  obtain ⟨place', hpath', hcases⟩ := write_cases h
  obtain rfl : place' = place := Except.ok.inj (hpath'.symm.trans hpath)
  rcases hcases with hreplaced | ⟨-, d, hd⟩
  · have hother' := (hreplaced.paths other there).mpr hother
    by_cases hthere : there = place'
    · rw [if_pos hthere, hreplaced.read_eq (hthere ▸ hother')]
    · rw [if_neg hthere]
      exact read_congr hother hother' (hreplaced.others there hthere) (hreplaced.directories there)
  · exact absurd hd (hdevice d)

/-! ### Rows of writes -/

/-- The place that a path names holds no device. -/
def Holds (t : FileTree) (path : Path) : Prop :=
  ∀ place d, t.locate path = .ok place → t.entry? place ≠ some (.device d)

/-- A write elsewhere makes no device. -/
theorem Replaced.holds {bytes : List UInt8} (h : t.Replaced t' place bytes) {path : Path}
    (hpath : t.Holds path) : t'.Holds path := by
  intro there d hthere
  rw [h.paths] at hthere
  by_cases hsame : there = place
  · obtain ⟨program, hheld⟩ := h.held
    rw [hsame, hheld]
    simp
  · rw [h.others there hsame]
    exact hpath there d hthere

/-- Writes in a row, each into the tree that the one before it left. -/
def writeAll (t : FileTree) (writes : List (Path × List UInt8)) : Except FileError FileTree :=
  writes.foldlM (fun t w => t.write w.1 w.2) t

theorem writeAll_cons {w : Path × List UInt8} {writes : List (Path × List UInt8)}
    (h : t.writeAll (w :: writes) = .ok t') :
    ∃ middle, t.write w.1 w.2 = .ok middle ∧ middle.writeAll writes = .ok t' := by
  rw [writeAll, List.foldlM_cons] at h
  cases hwrite : t.write w.1 w.2 with
  | error cause => rw [hwrite] at h; cases h
  | ok middle =>
    rw [hwrite] at h
    exact ⟨middle, rfl, h⟩

def writesTo (t : FileTree) (place : Place) (writes : List (Path × List UInt8)) :
    List (Path × List UInt8) :=
  writes.filter fun w => (t.locate w.1).toOption = some place

theorem writesTo_cons {w : Path × List UInt8} {there : Place} (h : t.locate w.1 = .ok there)
    (writes : List (Path × List UInt8)) :
    t.writesTo place (w :: writes) =
      if place = there then w :: t.writesTo place writes else t.writesTo place writes := by
  by_cases hplace : place = there
  · simp [writesTo, h, Except.toOption, hplace]
  · simp [writesTo, h, Except.toOption, hplace, Ne.symm hplace]

theorem toOption_locate_congr (h : ∀ path other, t'.locate path = .ok other ↔
    t.locate path = .ok other) (path : Path) :
    (t'.locate path).toOption = (t.locate path).toOption := by
  apply Option.ext
  intro other
  have hok : ∀ r : Except FileError Place, r.toOption = some other ↔ r = .ok other := by
    intro r
    cases r <;> simp [Except.toOption]
  rw [hok, hok, h]

/-- **The last write counts.** After a row of writes a file holds what the last write to its place
    gave it, and what it held before where no write went there. -/
theorem read_writeAll {writes : List (Path × List UInt8)} (h : t.writeAll writes = .ok t')
    (hholds : ∀ w ∈ writes, t.Holds w.1) {path : Path} (hpath : t.locate path = .ok place) :
    t'.read path = ((t.writesTo place writes).getLast?.map fun w => .ok w.2).getD (t.read path) := by
  induction writes generalizing t with
  | nil =>
    cases h
    rfl
  | cons w writes ih =>
    obtain ⟨middle, hwrite, hrest⟩ := writeAll_cons h
    obtain ⟨there, hthere, hreplaced | ⟨-, d, hd⟩⟩ := write_cases hwrite
    · have hread := read_of_write hthere (fun d => hholds w (by simp) there d hthere) hwrite hpath
      have hlater : middle.writesTo place writes = t.writesTo place writes := by
        simp only [writesTo, toOption_locate_congr hreplaced.paths]
      rw [ih hrest (fun w hw => hreplaced.holds (hholds w (by simp [hw])))
        ((hreplaced.paths path place).mpr hpath), hlater, hread, writesTo_cons hthere]
      split
      · rw [List.getLast?_cons]
        cases (t.writesTo place writes).getLast? <;> rfl
      · rfl
    · exact absurd hd (hholds w (by simp) there d hthere)

end TlaDigest.FileTree
