/-! Paths of files. -/

namespace DpllWatch.Path

/-- One slash goes between the parts unless the left one is empty or ends in a slash. An absolute
right part stands for itself. -/
def join (left right : String) : String :=
  if right.startsWith "/" then right
  else if left.isEmpty || left.endsWith "/" then left ++ right
  else left ++ "/" ++ right

end DpllWatch.Path
