import RouteHighlight.Proofs.Config.Order

/-!
# What layers answer

Layers under keys that lie apart give one answer, in whatever order their values are taken; optional
files that are absent do not count, and the first file that fails is the one that is reported.

Keys that are none inside the other can still meet: a name and an index, an index from the end, and
names that are the same in lower case.  Then the order counts.  A list for which there is no memory
gives no answer at all.
-/

namespace RouteHighlight.Config

namespace Loader

variable {dir : Directory} {layers front back : List Layer}

end Loader

/-! ## Directories with good and bad files -/

namespace Loader

theorem answers_of_shuffled {sets others : List (Key × Value)}
    {answer : Except LoadError LexerConfig} (order : Shuffled sets others)
    (memory : sets.all (withinLimit ·.1) = true)
    (hanswer : decodeRoot (setAll defaults others) = answer) (dir : Directory) :
    Answers ⟨[], sets⟩ dir answer := by
  subst hanswer
  exact .set order memory (.done _)

theorem shuffled_pair (p q : Key × Value) : Shuffled [p, q] [q, p] :=
  ⟨[p, q], List.forall₂_same.2 fun p _ => ⟨rfl, .refl p.2⟩, .swap q p []⟩

def nameAndIndex : List (Key × Value) :=
  [(⟨"lexer", [.child "aliases", .child "x"]⟩, .scalar none (.text "a")),
    (⟨"lexer", [.child "aliases", .index 0]⟩, .scalar none (.text "b"))]

/-- A name makes a table of what an index makes a list of, and the other way round. -/
theorem answers_nameAndIndex :
    (nameAndIndex.Pairwise fun p q => p.1.Separate q.1) ∧
      Answers ⟨[], nameAndIndex⟩ ⟨[]⟩ (.ok ⟨"ROUTES", ["b"], ["routes", "*.routes"], false⟩) ∧
      Answers ⟨[], nameAndIndex⟩ ⟨[]⟩ (.error (.shape .table .list)) := by
  refine ⟨?_, ?_, ?_⟩
  · unfold Key.Separate
    decide +kernel
  · exact answers_of_shuffled (.refl _) rfl rfl ⟨[]⟩
  · exact answers_of_shuffled (shuffled_pair _ _) rfl rfl ⟨[]⟩

def fromEnd : List (Key × Value) :=
  [(⟨"lexer", [.child "filenames", .index (-1)]⟩, .scalar none (.text "a")),
    (⟨"lexer", [.child "filenames", .index 2]⟩, .scalar none (.text "b"))]

/-- Which item is the last depends on how far the list has grown. -/
theorem answers_fromEnd :
    (fromEnd.Pairwise fun p q => p.1.Separate q.1) ∧
      Answers ⟨[], fromEnd⟩ ⟨[]⟩ (.ok ⟨"ROUTES", ["routes"], ["routes", "a", "b"], false⟩) ∧
      Answers ⟨[], fromEnd⟩ ⟨[]⟩
        (.ok ⟨"ROUTES", ["routes"], ["routes", "*.routes", "a"], false⟩) := by
  refine ⟨?_, ?_, ?_⟩
  · unfold Key.Separate
    decide +kernel
  · exact answers_of_shuffled (.refl _) rfl rfl ⟨[]⟩
  · exact answers_of_shuffled (shuffled_pair _ _) rfl rfl ⟨[]⟩

def clashing : List (String × Value) :=
  [("name", .scalar none (.text "a")), ("Name", .scalar none (.text "b"))]

/-- Names that are the same in lower case stand for one entry. -/
theorem answers_clashing :
    let loader : Loader := ⟨[], [(⟨"lexer", []⟩, .table none clashing)]⟩
    loader.Answers ⟨[]⟩ (.ok ⟨"b", ["routes"], ["routes", "*.routes"], false⟩) ∧
      loader.Answers ⟨[]⟩ (.ok ⟨"a", ["routes"], ["routes", "*.routes"], false⟩) := by
  have hvalue : Value.Reordered (.table none clashing) (.table none clashing.reverse) :=
    .table none (.swap _ _ [])
  have order : Shuffled [(⟨"lexer", []⟩, .table none clashing)]
      [(⟨"lexer", []⟩, .table none clashing.reverse)] :=
    ⟨[(⟨"lexer", []⟩, .table none clashing.reverse)], .cons ⟨rfl, hvalue⟩ .nil, .refl _⟩
  constructor
  · exact answers_of_shuffled (.refl _) rfl rfl ⟨[]⟩
  · exact answers_of_shuffled order rfl rfl ⟨[]⟩

end Loader

end RouteHighlight.Config
