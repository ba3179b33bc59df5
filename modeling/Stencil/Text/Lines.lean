/-!
# Lines

A line ends with a line feed, a carriage return, or both in the order CR, LF. Lines keep their ends, so
that they make up the text.
-/
namespace Stencil.Text

/-- The lines of a text with their ends; the last line may have none. -/
def lines : List Char → List (List Char)
  | [] => []
  | '\r' :: '\n' :: rest => ['\r', '\n'] :: lines rest
  | c :: rest =>
    if c = '\r' ∨ c = '\n' then [c] :: lines rest
    else
      match lines rest with
      | [] => [[c]]
      | line :: more => (c :: line) :: more

/-- Puts `pad` in front of every line; nothing follows the end of the last line. -/
def indent (pad s : List Char) : List Char := (lines s).flatMap (pad ++ ·)

theorem flatten_lines (s : List Char) : (lines s).flatten = s := by
  fun_induction lines s with
  | case1 => rfl
  | case2 rest ih => simp [ih]
  | case3 c rest _ hc ih => simp [ih]
  | case4 c rest _ hc hl ih => simp_all
  | case5 c rest _ hc line more hl ih => simp_all

end Stencil.Text
