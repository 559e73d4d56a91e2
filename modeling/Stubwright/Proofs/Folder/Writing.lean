import Stubwright.Folder

/-!
Files that are written. Writing changes nothing in the directories on the way to a file, so the file
is found again under its path and holds what was written last.
-/

namespace Stubwright.Folder

variable {folder : Folder} {parts : List Text} {content : FileContent}

theorem entries_lookup_map (entries : List (List Text × FileContent))
    (listed : parts ∈ entries.map Prod.fst) :
    (entries.map fun entry => if entry.1 = parts then (parts, content) else entry).lookup parts =
      some content := by
  induction entries with
  | nil => simp at listed
  | cons entry entries ih =>
      rw [List.map_cons]
      by_cases same : entry.1 = parts
      · rw [if_pos same, List.lookup_cons_self]
      · have later : parts ∈ entries.map Prod.fst := by
          simpa [Ne.symm same] using listed
        have differs : (parts == entry.1) = false := beq_eq_false_iff_ne.2 (Ne.symm same)
        rw [if_neg same, List.lookup_cons, differs]
        exact ih later

theorem entries_lookup_append (entries : List (List Text × FileContent))
    (fresh : parts ∉ entries.map Prod.fst) :
    (entries ++ [(parts, content)]).lookup parts = some content := by
  have missing : entries.lookup parts = none := by
    rw [List.lookup_eq_none_iff]
    intro entry member
    exact bne_iff_ne.2 fun same => fresh (List.mem_map.2 ⟨entry, member, same.symm⟩)
  rw [List.lookup_append, missing, List.lookup_cons_self]
  rfl

theorem entries_lookup_map_other {place : List Text} (entries : List (List Text × FileContent))
    (other : place ≠ parts) :
    (entries.map fun entry => if entry.1 = parts then (parts, content) else entry).lookup place =
      entries.lookup place := by
  induction entries with
  | nil => rfl
  | cons entry entries ih =>
      rw [List.map_cons, List.lookup_cons, List.lookup_cons, ih]
      by_cases same : entry.1 = parts
      · have differs : (place == parts) = false := beq_eq_false_iff_ne.2 other
        rw [if_pos same, same, differs]
      · rw [if_neg same]

theorem put_entries (parts : List Text) (content : FileContent) (folder : Folder) :
    (folder.put parts content).entries =
      if parts ∈ folder.entries.map Prod.fst then
        folder.entries.map fun entry => if entry.1 = parts then (parts, content) else entry
      else folder.entries ++ [(parts, content)] := by
  unfold put
  by_cases listed : parts ∈ folder.entries.map Prod.fst
  · have found : (folder.entries.any fun entry => entry.1 = parts) = true := by
      simpa using listed
    rw [if_pos found, if_pos listed]
  · have missing : ¬ (folder.entries.any fun entry => entry.1 = parts) = true := by
      simpa using listed
    rw [if_neg missing, if_neg listed]

theorem entries_lookup_put (parts : List Text) (content : FileContent) (folder : Folder) :
    (folder.put parts content).entries.lookup parts = some content := by
  rw [put_entries]
  split
  · exact entries_lookup_map folder.entries ‹_›
  · exact entries_lookup_append folder.entries ‹_›

theorem entries_lookup_put_other {place : List Text} (other : place ≠ parts) :
    (folder.put parts content).entries.lookup place = folder.entries.lookup place := by
  rw [put_entries]
  split
  · exact entries_lookup_map_other folder.entries other
  · have differs : (place == parts) = false := beq_eq_false_iff_ne.2 other
    rw [List.lookup_append, List.lookup_cons, differs]
    simp

/-- The places that are listed stay listed. -/
theorem listed_put {place : List Text} (listed : place ∈ folder.entries.map Prod.fst) :
    place ∈ (folder.put parts content).entries.map Prod.fst := by
  rw [put_entries]
  split
  · obtain ⟨entry, member, rfl⟩ := List.mem_map.1 listed
    rw [List.map_map]
    refine List.mem_map.2 ⟨entry, member, ?_⟩
    by_cases same : entry.1 = parts
    · simp [same]
    · simp [same]
  · rw [List.map_append]
    exact List.mem_append_left _ listed

theorem holds_put {place : List Text}
    (held : (folder.entries.any fun entry => place.isPrefixOf entry.1) = true) :
    ((folder.put parts content).entries.any fun entry => place.isPrefixOf entry.1) = true := by
  obtain ⟨entry, member, inside⟩ := List.any_eq_true.1 held
  obtain ⟨kept, among, same⟩ := List.mem_map.1 (listed_put (List.mem_map.2 ⟨entry, member, rfl⟩))
  refine List.any_eq_true.2 ⟨kept, among, ?_⟩
  rw [same]
  exact inside

theorem lookup_put (below : isAbove parts = false) :
    (folder.put parts content).lookup parts = content := by
  rw [lookup, below, entries_lookup_put]
  rfl

/-- What is put in at a place leaves the directories elsewhere what they are. -/
theorem directory_put {place : List Text} (other : place ≠ parts)
    (directory : folder.isDirectory place = true) :
    (folder.put parts content).isDirectory place = true := by
  unfold isDirectory lookup at directory ⊢
  rw [entries_lookup_put_other other]
  split
  case isTrue above => rfl
  case isFalse below =>
    rw [if_neg below] at directory
    cases found : folder.entries.lookup place with
    | some listed =>
        rw [found] at directory
        exact directory
    | none =>
        rw [found] at directory
        dsimp only at directory ⊢
        by_cases held : (folder.entries.any fun entry => place.isPrefixOf entry.1) = true
        · rw [if_pos (holds_put held)]
          rfl
        · rw [if_neg held] at directory
          cases directory

/-- A way that goes through directories does not go through what is none, so it stays open when a
file is put in. -/
theorem walk_put (file : folder.isDirectory parts = false) {place target : List Text}
    {way : List Text} (leads : folder.walk place way = some target) :
    (folder.put parts content).walk place way = some target := by
  induction way generalizing place with
  | nil => exact leads
  | cons part rest ih =>
      rw [walk] at leads ⊢
      cases directory : folder.isDirectory place with
      | false =>
          rw [directory] at leads
          cases leads
      | true =>
          have other : place ≠ parts := by
            rintro rfl
            rw [file] at directory
            cases directory
          rw [directory] at leads
          rw [directory_put other directory]
          exact ih leads

theorem write_at {path : Path} {target : List Text}
    (short : ¬ (longestPath < byteCount path.text ∨ path.parts.any (longestPart < byteCount ·)))
    (resolved : folder.resolve path = some target) (file : folder.isDirectory target = false)
    (text : List Char) :
    folder.write path text = .ok (folder.put target (.octets (Text.encodeChars text))) := by
  rw [write, if_neg short, resolved]
  dsimp only
  rw [file]
  rfl

/-- What a write has done: the path leads to a place that is no directory, and the text stands
there now. -/
theorem write_ok {path : Path} {text : List Char} {after : Folder}
    (written : folder.write path text = .ok after) :
    ¬ (longestPath < byteCount path.text ∨ path.parts.any (longestPart < byteCount ·)) ∧
      ∃ target, folder.resolve path = some target ∧ folder.isDirectory target = false ∧
        after = folder.put target (.octets (Text.encodeChars text)) := by
  by_cases long : longestPath < byteCount path.text ∨ path.parts.any (longestPart < byteCount ·)
  · rw [write, if_pos long] at written
    cases written
  · refine ⟨long, ?_⟩
    rw [write, if_neg long] at written
    cases resolved : folder.resolve path with
    | none =>
        rw [resolved] at written
        cases written
    | some target =>
        rw [resolved] at written
        dsimp only at written
        cases directory : folder.isDirectory target with
        | true =>
            rw [directory] at written
            cases written
        | false =>
            rw [directory] at written
            cases written
            exact ⟨target, rfl, directory, rfl⟩

theorem below_of_file {place : List Text} (file : folder.isDirectory place = false) :
    isAbove place = false := by
  cases above : isAbove place with
  | false => rfl
  | true =>
      rw [isDirectory, lookup, above] at file
      cases file

theorem find_put {path : Path} {target : List Text} {octets : List UInt8}
    (resolved : folder.resolve path = some target) (file : folder.isDirectory target = false) :
    (folder.put target (.octets octets)).find path = .octets octets := by
  have again : (folder.put target (.octets octets)).resolve path = some target :=
    walk_put file resolved
  rw [find, again]
  exact lookup_put (below_of_file file)

/-- What is written under a path is found under it. -/
theorem find_write {path : Path} {text : List Char} {after : Folder}
    (written : folder.write path text = .ok after) :
    after.find path = .octets (Text.encodeChars text) := by
  obtain ⟨-, target, resolved, file, rfl⟩ := write_ok written
  exact find_put resolved file

/-- A file that could be opened can be written again. -/
theorem write_again {path : Path} {text : List Char} {opened : Folder}
    (written : folder.write path text = .ok opened) (other : List Char) :
    ∃ after, opened.write path other = .ok after := by
  obtain ⟨short, target, resolved, file, rfl⟩ := write_ok written
  have still :
      (folder.put target (.octets (Text.encodeChars text))).isDirectory target = false := by
    rw [isDirectory, lookup_put (below_of_file file)]
    rfl
  exact ⟨_, write_at short (walk_put file resolved) still other⟩

end Stubwright.Folder
