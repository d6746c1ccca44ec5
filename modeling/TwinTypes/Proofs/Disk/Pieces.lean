import Mathlib.Data.List.Infix
import TwinTypes.Disk.Operation
import TwinTypes.Proofs.Text.Joining

/-!
# The pieces of joined and shortened paths

A path is followed by its pieces, so all that the file operations can notice of a path is which
pieces it has (`TwinTypes.Disk.bareSteps`) and whether it begins at the root. Here both are computed
for the two ways in which paths are made from other paths:

* joining a directory and what is below it appends the pieces (`bareSteps_join`) and keeps the
  beginning (`isAbsolute_join`);
* every path that leads to a path has a beginning of its pieces (`of_mem_ancestors`).

Cutting a text at its slashes and putting the pieces together again are inverse to each other
(`intercalate_pieces`, `pieces_intercalate`). That is the reason why the parent of a joined path is
the directory it was joined to, letter by letter (`parent_join_join`).
-/

namespace TwinTypes.Path

open Disk (bareSteps)

/-! ### Cutting and joining at slashes -/

theorem splitFrom_eq (word cs : List Char) :
    splitFrom word cs = List.splitOnPPrepend (· == '/') cs word := by
  induction cs generalizing word with
  | nil => simp [splitFrom]
  | cons c cs ih =>
    rw [splitFrom, List.splitOnPPrepend_cons_eq_if]
    by_cases hc : c = '/'
    · simp [hc, ih]
    · simp [hc, ih]

theorem pieces_eq (path : String) : pieces path = (path.toList.splitOn '/').map String.ofList := by
  rw [pieces, splitFrom_eq, List.splitOnPPrepend_nil_right, List.splitOn_eq_splitOnP]

/-- A piece consists of characters of the text, and of no slashes. -/
theorem of_mem_splitOn {cs word : List Char} (h : word ∈ cs.splitOn '/') :
    ∀ c ∈ word, c ∈ cs ∧ c ≠ '/' := by
  induction cs generalizing word with
  | nil =>
    obtain rfl : word = [] := by simpa using h
    simp
  | cons x cs ih =>
    rw [List.splitOn_cons_eq_if_modifyHead] at h
    intro c hc
    by_cases hx : x = '/'
    · simp only [hx, beq_self_eq_true, if_true, List.mem_cons] at h
      rcases h with rfl | h
      · simp at hc
      · exact ⟨List.mem_cons_of_mem _ (ih h c hc).1, (ih h c hc).2⟩
    · simp only [beq_iff_eq, hx, if_false] at h
      obtain ⟨first, rest, hsplit⟩ := List.exists_cons_of_ne_nil (List.splitOn_ne_nil '/' cs)
      rw [hsplit, List.modifyHead_cons, List.mem_cons] at h
      rcases h with rfl | h
      · rcases List.mem_cons.mp hc with rfl | hc
        · exact ⟨List.mem_cons_self, hx⟩
        · have hfirst := ih (by rw [hsplit]; exact List.mem_cons_self) c hc
          exact ⟨List.mem_cons_of_mem _ hfirst.1, hfirst.2⟩
      · have hrest := ih (by rw [hsplit]; exact List.mem_cons_of_mem _ h) c hc
        exact ⟨List.mem_cons_of_mem _ hrest.1, hrest.2⟩

theorem of_mem_pieces {path piece : String} (h : piece ∈ pieces path) :
    ∀ c ∈ piece.toList, c ∈ path.toList ∧ c ≠ '/' := by
  rw [pieces_eq] at h
  obtain ⟨word, hword, rfl⟩ := List.mem_map.mp h
  rw [String.toList_ofList]
  exact of_mem_splitOn hword

theorem slash_notMem_of_mem_pieces {path piece : String} (h : piece ∈ pieces path) :
    '/' ∉ piece.toList := fun hc => (of_mem_pieces h '/' hc).2 rfl

theorem pieces_append_slash (a b : String) : pieces (a ++ "/" ++ b) = pieces a ++ pieces b := by
  have htext : (a ++ "/" ++ b).toList = a.toList ++ '/' :: b.toList := by simp
  rw [pieces_eq, pieces_eq, pieces_eq, htext, List.splitOn_append_cons_self, List.map_append]

/-- A text without slashes is its own only piece. -/
theorem pieces_of_notMem {s : String} (h : '/' ∉ s.toList) : pieces s = [s] := by
  rw [pieces_eq, List.splitOn_eq_singleton h]
  simp

/-- A slash at the end puts an empty piece there. -/
theorem pieces_append_slash_end (a : String) : pieces (a ++ "/") = pieces a ++ [""] := by
  have h := pieces_append_slash a ""
  rwa [String.append_empty, pieces_of_notMem (by simp : '/' ∉ "".toList)] at h

theorem intercalate_pieces (path : String) : String.intercalate "/" (pieces path) = path := by
  apply String.toList_injective
  rw [String.toList_intercalate, pieces_eq, List.map_map]
  have hid : String.toList ∘ String.ofList = id := funext fun _ => String.toList_ofList
  rw [hid, List.map_id]
  exact List.intercalate_splitOn '/'

theorem pieces_intercalate {xs : List String} (hne : xs ≠ []) (h : ∀ x ∈ xs, '/' ∉ x.toList) :
    pieces (String.intercalate "/" xs) = xs := by
  have hid : String.ofList ∘ String.toList = id := funext fun _ => String.ofList_toList
  rw [pieces_eq, Text.splitOn_toList_intercalate rfl hne h, List.map_map, hid, List.map_id]

/-! ### Joining -/

theorem bareSteps_append_slash (a b : String) :
    bareSteps (a ++ "/" ++ b) = bareSteps a ++ bareSteps b := by
  simp [bareSteps, pieces_append_slash]

theorem bareSteps_empty : bareSteps "" = [] := by
  have h : pieces "" = [""] := pieces_of_notMem (by simp)
  rw [bareSteps, h]
  rfl

/-- **A single name**, as it stands between the slashes of a path. -/
structure IsSegment (name : String) : Prop where
  /-- It is not empty. -/
  ne_empty : name ≠ ""
  /-- It is not the dot. -/
  ne_dot : name ≠ "."
  /-- It is not the two dots. -/
  ne_up : name ≠ ".."
  /-- It is not cut. -/
  slash : '/' ∉ name.toList

/-- A segment is followed by itself. -/
theorem IsSegment.bareSteps {name : String} (h : IsSegment name) : bareSteps name = [name] := by
  simp [Disk.bareSteps, pieces_of_notMem h.slash, h.ne_empty]

/-- A text that ends with a slash. -/
theorem exists_eq_append_slash {a : String} (h : a.toList.getLast? = some '/') :
    ∃ b, a = b ++ "/" := by
  obtain ⟨cs, hcs⟩ := List.getLast?_eq_some_iff.mp h
  exact ⟨String.ofList cs, String.toList_injective (by simp [hcs])⟩

/-- **Joining puts one slash between the two paths**, whether or not the first one ends with one;
only the empty path takes none. -/
theorem join_cases {a b : String} (hb : isAbsolute b = false) :
    (a = "" ∧ join a b = b) ∨ (∃ a', a = a' ++ "/" ∧ join a b = a' ++ "/" ++ b) ∨
      (a ≠ "" ∧ a.toList.getLast? ≠ some '/' ∧ join a b = a ++ "/" ++ b) := by
  have hjoin : join a b =
      if a.isEmpty || a.toList.getLast? == some '/' then a ++ b else a ++ "/" ++ b := by
    simp [join, hb]
  by_cases hempty : a = ""
  · left
    rw [hjoin, hempty]
    simp
  · right
    by_cases hlast : a.toList.getLast? = some '/'
    · left
      obtain ⟨a', rfl⟩ := exists_eq_append_slash hlast
      refine ⟨a', rfl, ?_⟩
      rw [hjoin, hlast]
      simp
    · right
      refine ⟨hempty, hlast, ?_⟩
      rw [hjoin]
      simp [hempty, hlast]

/-- A joined path ends with what was joined to it. -/
theorem exists_join_eq (a : String) {b : String} (hb : isAbsolute b = false) :
    ∃ front, join a b = front ++ b := by
  rcases join_cases (a := a) hb with ⟨-, h⟩ | ⟨a', -, h⟩ | ⟨-, -, h⟩
  · exact ⟨"", by rw [h, String.empty_append]⟩
  · exact ⟨a' ++ "/", h⟩
  · exact ⟨a ++ "/", h⟩

theorem mem_join {a b : String} (hb : isAbsolute b = false) {c : Char}
    (h : c ∈ (join a b).toList) : c ∈ a.toList ∨ c = '/' ∨ c ∈ b.toList := by
  rcases join_cases (a := a) hb with ⟨-, hj⟩ | ⟨a', rfl, hj⟩ | ⟨-, -, hj⟩
  · rw [hj] at h
    exact Or.inr (Or.inr h)
  all_goals
    rw [hj] at h
    simpa [or_assoc] using h

theorem bareSteps_join {a b : String} (hb : isAbsolute b = false) :
    bareSteps (join a b) = bareSteps a ++ bareSteps b := by
  rcases join_cases (a := a) hb with ⟨rfl, h⟩ | ⟨a', rfl, h⟩ | ⟨-, -, h⟩
  · rw [h, bareSteps_empty, List.nil_append]
  · have hslash := bareSteps_append_slash a' ""
    rw [String.append_empty, bareSteps_empty, List.append_nil] at hslash
    rw [h, bareSteps_append_slash, hslash]
  · rw [h, bareSteps_append_slash]

theorem isAbsolute_append {a b : String} (ha : a ≠ "") : isAbsolute (a ++ b) = isAbsolute a := by
  have hne : a.toList ≠ [] := by simpa [String.toList_eq_nil_iff] using ha
  rw [isAbsolute, isAbsolute, String.toList_append, List.head?_append_of_ne_nil _ hne]

theorem isAbsolute_join {a b : String} (hb : isAbsolute b = false) :
    isAbsolute (join a b) = isAbsolute a := by
  by_cases ha : a = ""
  · rcases join_cases (a := a) hb with ⟨-, h⟩ | ⟨a', rfl, -⟩ | ⟨hne, -, -⟩
    · rw [h, hb, ha]
      decide
    · simp at ha
    · exact absurd ha hne
  · unfold join
    rw [hb]
    split
    · simp_all
    · split
      · exact isAbsolute_append ha
      · rw [String.append_assoc, isAbsolute_append ha]

/-- A name does not begin at the root. -/
theorem isAbsolute_of_notMem {s : String} (h : '/' ∉ s.toList) : isAbsolute s = false := by
  rw [isAbsolute, beq_eq_false_iff_ne]
  intro hc
  exact h (List.mem_of_mem_head? hc)

theorem IsSegment.isAbsolute {name : String} (h : IsSegment name) : isAbsolute name = false :=
  isAbsolute_of_notMem h.slash

/-- The last piece of a name joined to a path is that name. -/
theorem exists_pieces_join (a : String) {name : String} (h : '/' ∉ name.toList) :
    ∃ before, pieces (join a name) = before ++ [name] := by
  rcases join_cases (a := a) (isAbsolute_of_notMem h) with ⟨-, hj⟩ | ⟨a', -, hj⟩ | ⟨-, -, hj⟩
  · exact ⟨[], by rw [hj, pieces_of_notMem h, List.nil_append]⟩
  · exact ⟨pieces a', by rw [hj, pieces_append_slash, pieces_of_notMem h]⟩
  · exact ⟨pieces a, by rw [hj, pieces_append_slash, pieces_of_notMem h]⟩

/-- **Joining to the dot** puts a dot and a slash in front. -/
theorem join_dot {b : String} (hb : isAbsolute b = false) : join "." b = "." ++ "/" ++ b := by
  have hlast : (".".toList.getLast? == some '/') = false := by decide
  have hempty : ".".isEmpty = false := by decide
  rw [join, hb, hlast, hempty]
  rfl

theorem utf8ByteSize_join_dot {b : String} (hb : isAbsolute b = false) :
    (join "." b).utf8ByteSize = b.utf8ByteSize + 2 := by
  have hdot : ("." ++ "/").utf8ByteSize = 2 := by decide
  rw [join_dot hb, String.utf8ByteSize_append, hdot, Nat.add_comm]

/-! ### The paths that lead to a path -/

theorem dropIdle_suffix (xs : List String) : dropIdle xs <:+ xs := by
  induction xs with
  | nil => exact List.suffix_rfl
  | cons x xs ih =>
    cases xs with
    | nil =>
      rw [dropIdle]
      split
      · exact List.nil_suffix
      · exact List.suffix_rfl
    | cons y ys =>
      simp only [dropIdle]
      split
      · exact ih.trans (List.suffix_cons x _)
      · exact List.suffix_rfl

theorem dropIdle_suffix_of_cons {x : String} {xs ys : List String} (h : x :: xs <:+ ys) :
    dropIdle xs <:+ ys :=
  (dropIdle_suffix xs).trans ((List.suffix_cons x xs).trans h)

theorem reversedPieces_suffix (path : String) : reversedPieces path <:+ (pieces path).reverse :=
  dropIdle_suffix _

theorem exists_of_mem_ancestorsOf {absolute : Bool} {fuel : Nat} {xs : List String} {a : String}
    (h : a ∈ ancestorsOf absolute fuel xs) : ∃ ys, ys <:+ xs ∧ a = ofReversed absolute ys := by
  induction fuel generalizing xs with
  | zero => simp [ancestorsOf] at h
  | succ fuel ih =>
    cases xs with
    | nil => exact ⟨[], List.suffix_rfl, by simpa [ancestorsOf] using h⟩
    | cons x xs =>
      rw [ancestorsOf, List.mem_cons] at h
      rcases h with rfl | h
      · exact ⟨x :: xs, List.suffix_rfl, rfl⟩
      · obtain ⟨ys, hys, ha⟩ := ih h
        exact ⟨ys, hys.trans (dropIdle_suffix_of_cons List.suffix_rfl), ha⟩

/-- A path that leads to a path is the path itself, or is made of some of its first pieces. -/
theorem exists_of_mem_ancestors {path a : String} (h : a ∈ ancestors path) :
    a = path ∨ ∃ ys, ys <:+ (pieces path).reverse ∧ a = ofReversed (isAbsolute path) ys := by
  unfold ancestors at h
  have hsuffix := reversedPieces_suffix path
  split at h
  · exact Or.inl (by simpa using h)
  · rename_i x before heq
    rcases List.mem_cons.mp h with rfl | h
    · exact Or.inl rfl
    · obtain ⟨ys, hys, ha⟩ := exists_of_mem_ancestorsOf h
      rw [heq] at hsuffix
      exact Or.inr ⟨ys, hys.trans (dropIdle_suffix_of_cons hsuffix), ha⟩

section FirstPieces

variable {path : String} {ys : List String}

/-- Some of the first pieces of a path, put together, are a beginning of the path. -/
theorem exists_append_of_prefix (hne : ys ≠ []) (h : ys <+: pieces path) :
    ∃ rest, path = String.intercalate "/" ys ++ rest := by
  obtain ⟨zs, hzs⟩ := h
  have hpath := intercalate_pieces path
  rw [← hzs] at hpath
  by_cases hz : zs = []
  · exact ⟨"", by rw [← hpath, hz, List.append_nil, String.append_empty]⟩
  · refine ⟨"/" ++ String.intercalate "/" zs, ?_⟩
    rw [String.intercalate_append_of_ne_nil hne hz] at hpath
    rw [← hpath, String.append_assoc]

theorem slash_notMem_of_suffix (h : ys <:+ (pieces path).reverse) :
    ∀ y ∈ ys, '/' ∉ y.toList := fun _ hy =>
  slash_notMem_of_mem_pieces (List.mem_reverse.mp (h.subset hy))

theorem ofReversed_of_ne_nil (absolute : Bool) (hne : ys ≠ []) :
    ofReversed absolute ys = String.intercalate "/" ys.reverse := by
  obtain ⟨y, before, rfl⟩ := List.exists_cons_of_ne_nil hne
  rfl

/-- **The pieces of a path that is put together** are those that it is put together of. -/
theorem pieces_ofReversed (absolute : Bool) (hne : ys ≠ []) (h : ∀ y ∈ ys, '/' ∉ y.toList) :
    pieces (ofReversed absolute ys) = ys.reverse := by
  rw [ofReversed_of_ne_nil absolute hne,
    pieces_intercalate (by simpa using hne) fun x hx => h x (by simpa using hx)]

/-- An empty text would be that of a single empty piece, and such a piece is left out. -/
theorem ofReversed_ne_empty (absolute : Bool) (hne : ys ≠ []) (h : ∀ y ∈ ys, '/' ∉ y.toList)
    (htrim : dropIdle ys = ys) : ofReversed absolute ys ≠ "" := by
  intro hempty
  have hone := pieces_ofReversed absolute hne h
  rw [hempty, pieces_of_notMem (by simp), ← List.reverse_singleton, List.reverse_inj] at hone
  rw [← hone] at htrim
  exact absurd htrim (by decide)

/-- The names of a path that is put together of pieces. -/
theorem bareSteps_ofReversed (absolute : Bool) (hne : ys ≠ []) (h : ∀ y ∈ ys, '/' ∉ y.toList) :
    bareSteps (ofReversed absolute ys) = ys.reverse.filter fun p => !p.isEmpty := by
  rw [bareSteps, pieces_ofReversed absolute hne h]

/-- **The first pieces of a path are followed first**, and from the same place. -/
theorem of_ofReversed (h : ys <:+ (pieces path).reverse)
    (hne : ofReversed (isAbsolute path) ys ≠ "") :
    bareSteps (ofReversed (isAbsolute path) ys) <+: bareSteps path ∧
      isAbsolute (ofReversed (isAbsolute path) ys) = isAbsolute path := by
  cases hys : ys with
  | nil =>
    cases habs : isAbsolute path with
    | false => simp [hys, ofReversed, habs] at hne
    | true =>
      have hroot : bareSteps "/" = [] := by decide
      rw [ofReversed, if_pos rfl, hroot]
      exact ⟨List.nil_prefix, by decide⟩
  | cons y before =>
    have hinit : ys.reverse <+: pieces path := by simpa using List.reverse_prefix.mpr h
    have hnil : ys ≠ [] := by simp [hys]
    have hslash := slash_notMem_of_suffix h
    rw [← hys]
    constructor
    · rw [bareSteps_ofReversed _ hnil hslash, bareSteps]
      exact hinit.filter _
    · -- with a piece in it the text is that of the pieces, the slash at the front included
      have htext : ofReversed (isAbsolute path) ys = String.intercalate "/" ys.reverse := by
        simp [hys, ofReversed]
      obtain ⟨rest, hrest⟩ := exists_append_of_prefix (by simpa using hnil) hinit
      rw [htext] at hne ⊢
      conv_rhs => rw [hrest]
      exact (isAbsolute_append hne).symm

end FirstPieces

/-- **A path that leads to a path** has some of the first names of the path, and begins at the same
place. -/
theorem of_mem_ancestors {path a : String} (h : a ∈ ancestors path) (hne : a ≠ "") :
    bareSteps a <+: bareSteps path ∧ isAbsolute a = isAbsolute path := by
  rcases exists_of_mem_ancestors h with rfl | ⟨ys, hys, rfl⟩
  · exact ⟨List.prefix_rfl, rfl⟩
  · exact of_ofReversed hys hne

/-! ### The parent of a joined path -/

theorem dropIdle_cons {piece : String} {before : List String} (h : IsSegment piece) :
    dropIdle (piece :: before) = piece :: before := by
  have hidle : ∀ first, isIdle first piece = false := fun first => by
    simp [isIdle, h.ne_empty, h.ne_dot]
  cases before with
  | nil => simp [dropIdle, hidle]
  | cons x xs => simp [dropIdle, hidle]

section Parent

variable {last name : String}

/-- A path that ends with a segment is not empty and ends with no slash, so that joining to it takes
a slash. -/
theorem join_join (a : String) (hlast : IsSegment last) (hname : IsSegment name) :
    join (join a last) name = join a last ++ "/" ++ name := by
  obtain ⟨before, hpieces⟩ := exists_pieces_join a hlast.slash
  rcases join_cases (a := join a last) (isAbsolute_of_notMem hname.slash) with
    ⟨hempty, -⟩ | ⟨a', hslash, -⟩ | ⟨-, -, h⟩
  · rw [hempty, pieces_of_notMem (by simp)] at hpieces
    have hl := congrArg List.getLast? hpieces
    simp [eq_comm, hlast.ne_empty] at hl
  · rw [hslash, pieces_append_slash_end] at hpieces
    have hl := congrArg List.getLast? hpieces
    simp [eq_comm, hlast.ne_empty] at hl
  · exact h

/-- **The parent of a segment in a directory is the directory**, in the same letters. -/
theorem parent_join_join (a : String) (hlast : IsSegment last) (hname : IsSegment name) :
    parent (join (join a last) name) = some (join a last) := by
  obtain ⟨before, hpieces⟩ := exists_pieces_join a hlast.slash
  have hback : (pieces (join a last)).reverse = last :: before.reverse := by simp [hpieces]
  rw [parent, reversedPieces, join_join a hlast hname, pieces_append_slash,
    pieces_of_notMem hname.slash, List.reverse_append, List.reverse_singleton,
    List.singleton_append, dropIdle_cons hname]
  simp only
  rw [hback, dropIdle_cons hlast, ← hback, ofReversed, List.reverse_reverse, intercalate_pieces]
  simp [hback]

/-- **The last component of a segment in a directory** is the segment. -/
theorem fileName_join_join (a : String) (hlast : IsSegment last) (hname : IsSegment name) :
    fileName (join (join a last) name) = some name := by
  rw [fileName, reversedPieces, join_join a hlast hname, pieces_append_slash,
    pieces_of_notMem hname.slash, List.reverse_append, List.reverse_singleton,
    List.singleton_append, dropIdle_cons hname]
  simp [hname.ne_dot, hname.ne_up]

end Parent

end TwinTypes.Path
