/-!
# Templates with one placeholder

A template is a text in which the first `%s` stands for a value. Later placeholders are plain
text, and so is the value: nothing in it is read again.
-/

namespace EntSchema.Text

/-- The template with `value` in place of its first `%s`, over characters. -/
def fillChars (value : List Char) : List Char → List Char
  | [] => []
  | '%' :: 's' :: rest => value ++ rest
  | c :: rest => c :: fillChars value rest

/-- The template with `value` in place of its first `%s`; without a placeholder, the template. -/
def fill (template value : String) : String :=
  String.ofList (fillChars value.toList template.toList)

end EntSchema.Text
