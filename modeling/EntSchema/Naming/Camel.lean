import EntSchema.Naming.Word

/-!
# Camel case

Words are joined without separators, each with a capital first letter; words that are acronyms are
in capitals throughout. In the lower form the first word starts small.
-/

namespace EntSchema.Naming

/-- The words that are written in capitals throughout. -/
def acronyms : List String :=
  ["ACL", "API", "ASCII", "AWS", "CPU", "CSS", "DNS", "EOF", "GB", "GUID", "HTML", "HTTP", "HTTPS",
    "ID", "IP", "JSON", "KB", "LHS", "MAC", "MB", "QPS", "RAM", "RHS", "RPC", "SLA", "SMTP", "SQL",
    "SSH", "SSO", "TCP", "TLS", "TTL", "UDP", "UI", "UID", "URI", "URL", "UTF8", "UUID", "VM",
    "XML", "XMPP", "XSRF", "XSS"]

/-- Whether a word in capitals is an acronym. -/
def isAcronym (word : List Char) : Bool :=
  acronyms.any (·.toList == word)

/-- A word as it stands inside a camel case name. -/
def camelWord (word : List Char) : List Char :=
  let upper := Unicode.capitals word
  if isAcronym upper then upper else capitalize word

/-- The first word of a lower camel case name: all small when it has no small letter, else with a
small first letter. -/
def leadingWord (word : List Char) : List Char :=
  if word.all (!Unicode.isLowercase ·) then Unicode.smalls word
  else match word with
    | [] => []
    | c :: rest => Unicode.small c ++ rest

/-- The words in upper camel case, over characters. -/
def upperCamelChars (name : List Char) : List Char :=
  (words name).flatMap camelWord

/-- The words in lower camel case, over characters. -/
def lowerCamelChars (name : List Char) : List Char :=
  match words name with
  | [] => []
  | first :: rest => leadingWord first ++ rest.flatMap camelWord

/-- A name in upper camel case: `user_id` becomes `UserID`. -/
def upperCamel (name : String) : String :=
  String.ofList (upperCamelChars name.toList)

/-- A name in lower camel case: `user_id` becomes `userID`. -/
def lowerCamel (name : String) : String :=
  String.ofList (lowerCamelChars name.toList)

end EntSchema.Naming
