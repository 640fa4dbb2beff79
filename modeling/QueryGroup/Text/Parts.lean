set_option autoImplicit false

namespace QueryGroup.Text

def partsAt (separator : Char) : List Char → List (List Char)
  | [] => [[]]
  | c :: rest =>
      if c = separator then [] :: partsAt separator rest
      else
        match partsAt separator rest with
        | first :: later => (c :: first) :: later
        | [] => [[c]]

end QueryGroup.Text
