import EntSchema.Proofs.ParseTree.Outline

/-!
# The grammar of default expressions

Four kinds of expressions are default values, three of them on their own and the fourth one, the
cast, with another expression under it. `Derivable` is the grammar, and what is derivable is what has
a value: the value repeats the casts one by one (`resolveDefault_eq_ok`).

An expression under casts may have several defects, one at each level. Levels are looked at from the
inside out, since a cast reads its argument before its type, so the innermost defect is reported
(`resolveDefault_eq_error`).
-/

namespace EntSchema.ParseTree

open Relational Fold


/-! ## What a level has to contain -/

/-- A path leads to an object with a first field, which is its tag and its body. -/
def LeadsToTagged (node : Json) (path : String) (tagged : String × Json) : Prop :=
  ∃ fields, node.get? path = some (.object (tagged :: fields))

/-- A path leads to a list that ends in a string node with a name in it. -/
def EndsInName (node : Json) (path name : String) : Prop :=
  ∃ names item, node.get? path = some names ∧ names.items.getLast? = some item ∧
    item.stringNode? = some name ∧ name ≠ ""

section Parts

variable {node body : Json} {path name : String} {tagged : String × Json} {e : ParseError}

theorem tagged?_eq_some : node.tagged? = some tagged ↔ ∃ fields, node = .object (tagged :: fields) := by
  constructor
  · intro h
    cases node with
    | object fields =>
      cases fields with
      | nil => cases h
      | cons field rest =>
        cases h
        exact ⟨rest, rfl⟩
    | _ => cases h
  · rintro ⟨fields, rfl⟩
    rfl

theorem leadsToTagged_iff :
    LeadsToTagged node path tagged ↔ (node.get? path).bind Json.tagged? = some tagged := by
  rw [Option.bind_eq_some_iff]
  constructor
  · rintro ⟨fields, h⟩
    exact ⟨_, h, rfl⟩
  · rintro ⟨value, h, htagged⟩
    obtain ⟨fields, rfl⟩ := tagged?_eq_some.1 htagged
    exact ⟨fields, h⟩

theorem requireTagged_eq_ok :
    requireTagged node path = .ok tagged ↔ LeadsToTagged node path tagged := by
  rw [leadsToTagged_iff, requireTagged]
  cases (node.get? path).bind Json.tagged? <;> simp

theorem requireTagged_eq_error :
    requireTagged node path = .error e ↔
      (∀ tagged, ¬LeadsToTagged node path tagged) ∧ e = .missingField path := by
  simp only [leadsToTagged_iff, requireTagged]
  cases (node.get? path).bind Json.tagged? <;> simp [eq_comm]

theorem require_eq_error :
    require node path = .error e ↔ node.get? path = none ∧ e = .missingField path := by
  rw [require]
  cases node.get? path <;> simp [eq_comm]

theorem endsInName_iff :
    EndsInName node path name ↔
      ((node.get? path).bind fun names => names.items.getLast?.bind Json.stringNode?).filter
        (· ≠ "") = some name := by
  rw [Option.filter_eq_some_iff, Option.bind_eq_some_iff]
  simp only [Option.bind_eq_some_iff, decide_eq_true_eq]
  constructor
  · rintro ⟨names, item, hnames, hitem, hname, hne⟩
    exact ⟨⟨names, hnames, item, hitem, hname⟩, hne⟩
  · rintro ⟨⟨names, hnames, item, hitem, hname⟩, hne⟩
    exact ⟨names, item, hnames, hitem, hname, hne⟩

theorem requireLastName_eq_ok :
    requireLastName node path = .ok name ↔ EndsInName node path name := by
  simp only [endsInName_iff, requireLastName]
  generalize Option.filter _ _ = found
  cases found <;> simp

theorem requireLastName_eq_error :
    requireLastName node path = .error e ↔
      (∀ name, ¬EndsInName node path name) ∧ e = .missingField path := by
  simp only [endsInName_iff, requireLastName]
  generalize Option.filter _ _ = found
  cases found <;> simp [eq_comm]

end Parts

/-! ## The grammar -/

/-- An expression that is a default value, by its tag and its body. -/
inductive Derivable : String → Json → Prop
  | constant {body : Json} {scalar : String × Json} (hvalue : LeadsToTagged body "val" scalar) :
    Derivable "A_Const" body
  | call {body : Json} {function : String} (hname : EndsInName body "funcname" function) :
    Derivable "FuncCall" body
  | keyword {body operator : Json} {code : Int} (hoperator : body.get? "op" = some operator)
      (hcode : operator.int64? = some code) (hleast : 0 ≤ code) (hgreatest : code ≤ 8) :
    Derivable "SQLValueFunction" body
  | cast {body inner : Json} {tag type : String} (hargument : LeadsToTagged body "arg" (tag, inner))
      (hinner : Derivable tag inner) (htype : EndsInName body "typeName.TypeName.names" type) :
    Derivable "TypeCast" body

/-- The source text of the last field of a constant; the empty text when it has no field. -/
def constantText (scalar : Json) : String :=
  (scalar.lastField?.map Json.render).getD ""

/-- The precision of a keyword function; the empty text when it has none. -/
def precisionText (body : Json) : String :=
  (((body.get? "typmod").bind Json.int64?).map toString).getD ""

/-- A value under casts to some types, from the outside in. -/
def castTo (types : List String) (value : DefaultValue) : DefaultValue :=
  types.foldr (fun type inner => .cast inner type) value

/-- An expression is a number of casts, to some types from the outside in, and under them a constant,
a call or a keyword function that has a value. -/
inductive Mirrors : String → Json → List String → DefaultValue → Prop
  | constant {body scalar : Json} {kind : String} (hvalue : LeadsToTagged body "val" (kind, scalar)) :
    Mirrors "A_Const" body [] (.literal kind (constantText scalar))
  | call {body : Json} {function : String} (hname : EndsInName body "funcname" function) :
    Mirrors "FuncCall" body [] (.call function)
  | keyword {body operator : Json} {code : Nat} {template : String}
      (hoperator : body.get? "op" = some operator) (hcode : operator.int64? = some (code : Int))
      (htemplate : keywordTemplates[code]? = some template) :
    Mirrors "SQLValueFunction" body [] (.keyword (Text.fill template (precisionText body)))
  | cast {body inner : Json} {tag type : String} {types : List String} {value : DefaultValue}
      (hargument : LeadsToTagged body "arg" (tag, inner)) (hinner : Mirrors tag inner types value)
      (htype : EndsInName body "typeName.TypeName.names" type) :
    Mirrors "TypeCast" body (type :: types) value

/-! ## Levels and their defects -/

/-- The expression that a cast is about. Any other expression is about none. -/
def castArgument? (level : String × Json) : Option (String × Json) :=
  if level.1 = "TypeCast" then (level.2.get? "arg").bind Json.tagged? else none

/-- An expression and the ones under its casts, from the outside in. -/
def levels (level : String × Json) : List (String × Json) :=
  match _hArgument : castArgument? level with
  | none => [level]
  | some inner => level :: levels inner
termination_by sizeOf level.2
decreasing_by
  rw [castArgument?] at _hArgument
  split at _hArgument
  · obtain ⟨arg, harg, htag⟩ := Option.bind_eq_some_iff.1 _hArgument
    have := Json.sizeOf_lt_of_get? harg
    have := Json.sizeOf_lt_of_tagged? htag
    omega
  · cases _hArgument

/-- What is wrong with one level of an expression, whatever stands under it. -/
inductive HasDefect : String × Json → ParseError → Prop
  | value {body : Json} (h : ∀ scalar, ¬LeadsToTagged body "val" scalar) :
    HasDefect ("A_Const", body) (.missingField "val")
  | function {body : Json} (h : ∀ function, ¬EndsInName body "funcname" function) :
    HasDefect ("FuncCall", body) (.missingField "funcname")
  | operator {body : Json} (h : body.get? "op" = none) :
    HasDefect ("SQLValueFunction", body) (.missingField "op")
  | code {body operator : Json} (hoperator : body.get? "op" = some operator)
      (h : ∀ code, operator.int64? = some code → ¬(0 ≤ code ∧ code ≤ 8)) :
    HasDefect ("SQLValueFunction", body) (.unsupportedValueFunction operator.render)
  | argument {body : Json} (h : ∀ inner, ¬LeadsToTagged body "arg" inner) :
    HasDefect ("TypeCast", body) (.missingField "arg")
  | type {body : Json} {inner : String × Json} (hargument : LeadsToTagged body "arg" inner)
      (h : body.get? "typeName" = none) :
    HasDefect ("TypeCast", body) (.missingField "typeName")
  | typeName {body type : Json} {inner : String × Json} (hargument : LeadsToTagged body "arg" inner)
      (htype : body.get? "typeName" = some type)
      (h : ∀ name, ¬EndsInName type "TypeName.names" name) :
    HasDefect ("TypeCast", body) (.missingField "TypeName.names")
  | kind {tag : String} {body : Json}
      (h : tag ∉ ["A_Const", "FuncCall", "SQLValueFunction", "TypeCast"]) :
    HasDefect (tag, body) (.unsupportedExpression tag)

/-! ## Expressions without casts -/

section Leaves

variable {body : Json} {value : DefaultValue} {code : Int} {template : String} {e : ParseError}

theorem resolveConstant_eq_ok :
    resolveConstant body = .ok value ↔
      ∃ kind scalar, LeadsToTagged body "val" (kind, scalar) ∧
        value = .literal kind (constantText scalar) := by
  rw [resolveConstant, bind_eq_ok]
  simp only [requireTagged_eq_ok, pure_eq_ok, Prod.exists]
  refine exists_congr fun kind => exists_congr fun scalar => and_congr_right fun _ => ?_
  rw [constantText, eq_comm]
  cases scalar.lastField? <;> rfl

theorem resolveConstant_eq_error :
    resolveConstant body = .error e ↔
      (∀ scalar, ¬LeadsToTagged body "val" scalar) ∧ e = .missingField "val" := by
  rw [resolveConstant, bind_eq_error, requireTagged_eq_error]
  refine or_iff_left ?_
  rintro ⟨tagged, -, hpure⟩
  cases hpure

theorem resolveCall_eq_ok :
    resolveCall body = .ok value ↔
      ∃ function, EndsInName body "funcname" function ∧ value = .call function := by
  rw [resolveCall, bind_eq_ok]
  simp only [requireLastName_eq_ok, pure_eq_ok]
  exact exists_congr fun function => and_congr_right fun _ => eq_comm

theorem resolveCall_eq_error :
    resolveCall body = .error e ↔
      (∀ function, ¬EndsInName body "funcname" function) ∧ e = .missingField "funcname" := by
  rw [resolveCall, bind_eq_error, requireLastName_eq_error]
  refine or_iff_left ?_
  rintro ⟨function, -, hpure⟩
  cases hpure

theorem keywordTemplate?_eq_some :
    keywordTemplate? code = some template ↔
      ∃ n : Nat, code = n ∧ keywordTemplates[n]? = some template := by
  rw [keywordTemplate?]
  constructor
  · intro h
    split at h
    · exact ⟨code.toNat, by omega, h⟩
    · cases h
  · rintro ⟨n, rfl, htemplate⟩
    rw [if_pos (Int.natCast_nonneg n), Int.toNat_natCast]
    exact htemplate

/-- There are nine keyword functions. -/
theorem keywordTemplate?_eq_none : keywordTemplate? code = none ↔ ¬(0 ≤ code ∧ code ≤ 8) := by
  rw [keywordTemplate?]
  split
  · rw [List.getElem?_eq_none_iff]
    show 9 ≤ code.toNat ↔ _
    omega
  · simp
    omega

/-- A keyword function has a value when its code is known, whatever its precision. -/
theorem resolveKeyword_eq_ok :
    resolveKeyword body = .ok value ↔
      ∃ operator, ∃ n : Nat, ∃ template, body.get? "op" = some operator ∧
        operator.int64? = some (n : Int) ∧ keywordTemplates[n]? = some template ∧
        value = .keyword (Text.fill template (precisionText body)) := by
  rw [resolveKeyword, bind_eq_ok]
  simp only [require_eq_ok]
  refine exists_congr fun operator => ?_
  rw [precisionText]
  constructor
  · rintro ⟨hoperator, hvalue⟩
    cases htemplate : operator.int64?.bind keywordTemplate? with
    | none =>
      rw [htemplate] at hvalue
      cases hvalue
    | some template =>
      obtain ⟨code, hcode, hknown⟩ := Option.bind_eq_some_iff.1 htemplate
      obtain ⟨n, rfl, hn⟩ := keywordTemplate?_eq_some.1 hknown
      refine ⟨n, template, hoperator, hcode, hn, ?_⟩
      rw [htemplate] at hvalue
      rw [← pure_eq_ok.1 hvalue]
      cases (body.get? "typmod").bind Json.int64? <;> rfl
  · rintro ⟨n, template, hoperator, hcode, hn, rfl⟩
    refine ⟨hoperator, ?_⟩
    rw [hcode, Option.bind_some, keywordTemplate?_eq_some.2 ⟨n, rfl, hn⟩]
    cases (body.get? "typmod").bind Json.int64? <;> rfl

theorem resolveKeyword_eq_error :
    resolveKeyword body = .error e ↔
      (body.get? "op" = none ∧ e = .missingField "op") ∨
        ∃ operator, body.get? "op" = some operator ∧
          (∀ code, operator.int64? = some code → ¬(0 ≤ code ∧ code ≤ 8)) ∧
          e = .unsupportedValueFunction operator.render := by
  have hunknown : ∀ operator : Json, operator.int64?.bind keywordTemplate? = none ↔
      ∀ code, operator.int64? = some code → ¬(0 ≤ code ∧ code ≤ 8) := by
    intro operator
    rw [Option.bind_eq_none_iff]
    exact forall₂_congr fun code _ => keywordTemplate?_eq_none
  rw [resolveKeyword, bind_eq_error, require_eq_error]
  refine or_congr_right (exists_congr fun operator => ?_)
  rw [require_eq_ok, ← hunknown]
  refine and_congr_right fun _ => ?_
  cases operator.int64?.bind keywordTemplate? with
  | none => simp [eq_comm]
  | some template => simp [pure, Except.pure]

end Leaves

/-! ## Casts -/

section Casts

variable {body inner : Json} {tag type : String} {value : DefaultValue} {e : ParseError}

/-- The type of a cast is found in two steps. -/
theorem endsInName_typeName {name : String} :
    EndsInName body "typeName.TypeName.names" name ↔
      ∃ node, body.get? "typeName" = some node ∧ EndsInName node "TypeName.names" name := by
  simp only [EndsInName, get?_typeName, Option.bind_eq_some_iff]
  constructor
  · rintro ⟨names, item, ⟨node, hnode, hnames⟩, hitem⟩
    exact ⟨node, hnode, names, item, hnames, hitem⟩
  · rintro ⟨node, hnode, names, item, hnames, hitem⟩
    exact ⟨names, item, ⟨node, hnode, hnames⟩, hitem⟩

/-- The type of a cast. -/
def castType (body : Json) : Except ParseError String := do
  typeName (← require body "typeName")

theorem castType_eq_ok :
    castType body = .ok type ↔ EndsInName body "typeName.TypeName.names" type := by
  rw [castType, bind_eq_ok, endsInName_typeName]
  simp only [require_eq_ok, typeName, requireLastName_eq_ok]

theorem castArgument?_eq_some {level argument : String × Json} :
    castArgument? level = some argument ↔
      level.1 = "TypeCast" ∧ LeadsToTagged level.2 "arg" argument := by
  rw [leadsToTagged_iff, castArgument?]
  split <;> simp [*]

theorem no_argument_of_none {body : Json} (h : castArgument? ("TypeCast", body) = none)
    (argument : String × Json) : ¬LeadsToTagged body "arg" argument := by
  intro hargument
  rw [castArgument?_eq_some.2 ⟨rfl, hargument⟩] at h
  cases h

theorem levels_of_argument {level argument : String × Json}
    (h : castArgument? level = some argument) : levels level = level :: levels argument := by
  rw [levels]
  split
  · rename_i hnone
    rw [hnone] at h
    cases h
  · rename_i found hfound
    rw [hfound, Option.some.injEq] at h
    rw [h]

theorem levels_of_none {level : String × Json} (h : castArgument? level = none) :
    levels level = [level] := by
  rw [levels]
  split
  · rfl
  · rename_i found hfound
    rw [hfound] at h
    cases h

/-! ## What an expression is resolved to -/

theorem resolveDefault_constant (body : Json) :
    resolveDefault "A_Const" body = resolveConstant body := by
  rw [resolveDefault, if_pos rfl]

theorem resolveDefault_call (body : Json) :
    resolveDefault "FuncCall" body = resolveCall body := by
  rw [resolveDefault, if_neg (by decide), if_pos rfl]

theorem resolveDefault_keyword (body : Json) :
    resolveDefault "SQLValueFunction" body = resolveKeyword body := by
  rw [resolveDefault, if_neg (by decide), if_neg (by decide), if_neg (by decide), if_pos rfl]

theorem resolveDefault_kind (h : tag ∉ ["A_Const", "FuncCall", "SQLValueFunction", "TypeCast"]) :
    resolveDefault tag body = .error (.unsupportedExpression tag) := by
  simp only [List.mem_cons, List.not_mem_nil, or_false, not_or] at h
  rw [resolveDefault, if_neg h.1, if_neg h.2.1, if_neg h.2.2.2, if_neg h.2.2.1]

theorem resolveDefault_of_no_argument (h : ∀ argument, ¬LeadsToTagged body "arg" argument) :
    resolveDefault "TypeCast" body = .error (.missingField "arg") := by
  rw [resolveDefault, if_neg (by decide), if_neg (by decide), if_pos rfl]
  split
  · rfl
  · rename_i arg harg
    split
    · rfl
    · rename_i innerTag inner htag
      exact absurd (leadsToTagged_iff.2 (Option.bind_eq_some_iff.2 ⟨arg, harg, htag⟩)) (h _)

/-- The argument of a cast comes first, then its type. -/
theorem resolveDefault_cast (h : LeadsToTagged body "arg" (tag, inner)) :
    resolveDefault "TypeCast" body = do
      let value ← resolveDefault tag inner
      let type ← castType body
      return .cast value type := by
  obtain ⟨fields, harg⟩ := h
  rw [resolveDefault, if_neg (by decide), if_neg (by decide), if_pos rfl]
  split
  · rename_i hnone
    rw [harg] at hnone
    cases hnone
  · rename_i arg hsome
    rw [harg, Option.some.injEq] at hsome
    subst hsome
    show (resolveDefault tag inner >>= fun value => require body "typeName" >>= fun node =>
      typeName node >>= fun type => pure (DefaultValue.cast value type)) = _
    simp only [castType, bind_assoc]

/-- **An expression has a value when it mirrors one**, casts and all. -/
theorem resolveDefault_eq_ok :
    resolveDefault tag body = .ok value ↔
      ∃ types innermost, Mirrors tag body types innermost ∧ value = castTo types innermost := by
  constructor
  · intro h
    fun_induction resolveDefault tag body generalizing value with
    | case1 body =>
      obtain ⟨kind, scalar, hvalue, rfl⟩ := resolveConstant_eq_ok.1 h
      exact ⟨[], _, .constant hvalue, rfl⟩
    | case2 body =>
      obtain ⟨function, hname, rfl⟩ := resolveCall_eq_ok.1 h
      exact ⟨[], _, .call hname, rfl⟩
    | case3 => cases h
    | case4 => cases h
    | case5 body arg harg innerTag inner htag _ _ ih =>
      have hargument := leadsToTagged_iff.2 (Option.bind_eq_some_iff.2 ⟨arg, harg, htag⟩)
      obtain ⟨innerValue, hinner, hrest⟩ := bind_eq_ok.1 h
      obtain ⟨node, hnode, hname⟩ := bind_eq_ok.1 hrest
      obtain ⟨type, htype, hvalue⟩ := bind_eq_ok.1 hname
      obtain ⟨types, innermost, hmirrors, rfl⟩ := ih hinner
      have hends := castType_eq_ok.1 (bind_eq_ok.2 ⟨node, hnode, htype⟩)
      exact ⟨type :: types, innermost, .cast hargument hmirrors hends, (pure_eq_ok.1 hvalue).symm⟩
    | case6 body =>
      obtain ⟨operator, n, template, hoperator, hcode, htemplate, rfl⟩ := resolveKeyword_eq_ok.1 h
      exact ⟨[], _, .keyword hoperator hcode htemplate, rfl⟩
    | case7 => cases h
  · rintro ⟨types, innermost, hmirrors, rfl⟩
    induction hmirrors with
    | constant hvalue =>
      rw [resolveDefault_constant]
      exact resolveConstant_eq_ok.2 ⟨_, _, hvalue, rfl⟩
    | call hname =>
      rw [resolveDefault_call]
      exact resolveCall_eq_ok.2 ⟨_, hname, rfl⟩
    | keyword hoperator hcode htemplate =>
      rw [resolveDefault_keyword]
      exact resolveKeyword_eq_ok.2 ⟨_, _, _, hoperator, hcode, htemplate, rfl⟩
    | cast hargument hinner htype ih =>
      rw [resolveDefault_cast hargument, ih, castType_eq_ok.2 htype]
      rfl

/-- **What has a value is what the grammar derives.** -/
theorem derivable_iff :
    Derivable tag body ↔ ∃ types innermost, Mirrors tag body types innermost := by
  constructor
  · intro h
    induction h with
    | constant hvalue => exact ⟨[], _, .constant hvalue⟩
    | call hname => exact ⟨[], _, .call hname⟩
    | @keyword body operator code hoperator hcode hleast hgreatest =>
      cases htemplate : keywordTemplate? code with
      | none => exact absurd ⟨hleast, hgreatest⟩ (keywordTemplate?_eq_none.1 htemplate)
      | some template =>
        obtain ⟨n, rfl, hn⟩ := keywordTemplate?_eq_some.1 htemplate
        exact ⟨[], _, .keyword hoperator hcode hn⟩
    | cast hargument _ htype ih =>
      obtain ⟨types, innermost, hmirrors⟩ := ih
      exact ⟨_ :: types, innermost, .cast hargument hmirrors htype⟩
  · rintro ⟨types, innermost, h⟩
    induction h with
    | constant hvalue => exact .constant hvalue
    | call hname => exact .call hname
    | @keyword body operator n template hoperator hcode htemplate =>
      have hknown := keywordTemplate?_eq_some.2 ⟨n, rfl, htemplate⟩
      have hrange : 0 ≤ (n : Int) ∧ (n : Int) ≤ 8 := by
        by_contra hout
        rw [keywordTemplate?_eq_none.2 hout] at hknown
        cases hknown
      exact .keyword hoperator hcode hrange.1 hrange.2
    | cast hargument _ htype ih => exact .cast hargument ih htype

end Casts

/-! ## The innermost defect -/

/-- No level of an expression has a defect. -/
def Sound (expression : String × Json) : Prop :=
  ∀ level ∈ levels expression, ∀ e, ¬HasDefect level e

/-- A level of an expression has a defect, and the levels under it have none. Those above it do not
matter. -/
def InnermostDefect (expression : String × Json) (e : ParseError) : Prop :=
  ∃ outer level inner, levels expression = outer ++ level :: inner ∧ HasDefect level e ∧
    ∀ deeper ∈ inner, ∀ other, ¬HasDefect deeper other

section Defects

variable {tag : String} {body : Json} {level argument expression : String × Json} {e : ParseError}

theorem sound_of_none (h : castArgument? level = none) :
    Sound level ↔ ∀ other, ¬HasDefect level other := by
  rw [Sound, levels_of_none h]
  simp

theorem sound_of_argument (h : castArgument? level = some argument) :
    Sound level ↔ (∀ other, ¬HasDefect level other) ∧ Sound argument := by
  rw [Sound, levels_of_argument h, List.forall_mem_cons]
  rfl

theorem innermostDefect_of_none (h : castArgument? level = none) :
    InnermostDefect level e ↔ HasDefect level e := by
  rw [InnermostDefect, levels_of_none h]
  constructor
  · rintro ⟨outer, found, inner, hsplit, hdefect, -⟩
    have hfound : found ∈ [level] := by simp [hsplit]
    rwa [← List.mem_singleton.1 hfound]
  · intro hdefect
    exact ⟨[], level, [], rfl, hdefect, nofun⟩

/-- The innermost defect of a cast is that of its argument, or its own when the argument has none. -/
theorem innermostDefect_of_argument (h : castArgument? level = some argument) :
    InnermostDefect level e ↔
      InnermostDefect argument e ∨ (Sound argument ∧ HasDefect level e) := by
  rw [InnermostDefect, levels_of_argument h]
  constructor
  · rintro ⟨outer, found, inner, hsplit, hdefect, hsound⟩
    cases outer with
    | nil =>
      obtain ⟨rfl, hinner⟩ := List.cons.inj hsplit
      exact .inr ⟨by rwa [Sound, hinner], hdefect⟩
    | cons first outer => exact .inl ⟨outer, found, inner, (List.cons.inj hsplit).2, hdefect, hsound⟩
  · rintro (⟨outer, found, inner, hsplit, hdefect, hsound⟩ | ⟨hsound, hdefect⟩)
    · exact ⟨level :: outer, found, inner, by rw [hsplit]; rfl, hdefect, hsound⟩
    · exact ⟨[], level, levels argument, rfl, hdefect, hsound⟩

/-- An expression that is no cast of another one fails with its own defect. -/
theorem resolveDefault_eq_error_of_none (h : castArgument? level = none) :
    resolveDefault level.1 level.2 = .error e ↔ HasDefect level e := by
  constructor
  · intro hfails
    obtain ⟨tag, body⟩ := level
    by_cases hkind : tag ∈ ["A_Const", "FuncCall", "SQLValueFunction", "TypeCast"]
    · simp only [List.mem_cons, List.not_mem_nil, or_false] at hkind
      rcases hkind with rfl | rfl | rfl | rfl
      · rw [resolveDefault_constant, resolveConstant_eq_error] at hfails
        obtain ⟨hvalue, rfl⟩ := hfails
        exact .value hvalue
      · rw [resolveDefault_call, resolveCall_eq_error] at hfails
        obtain ⟨hname, rfl⟩ := hfails
        exact .function hname
      · rw [resolveDefault_keyword, resolveKeyword_eq_error] at hfails
        rcases hfails with ⟨hoperator, rfl⟩ | ⟨operator, hoperator, hcode, rfl⟩
        · exact .operator hoperator
        · exact .code hoperator hcode
      · have hargument := no_argument_of_none h
        rw [resolveDefault_of_no_argument hargument] at hfails
        cases hfails
        exact .argument hargument
    · rw [resolveDefault_kind hkind] at hfails
      cases hfails
      exact .kind hkind
  · intro hdefect
    cases hdefect with
    | value hvalue => exact (resolveDefault_constant _).trans (resolveConstant_eq_error.2 ⟨hvalue, rfl⟩)
    | function hname => exact (resolveDefault_call _).trans (resolveCall_eq_error.2 ⟨hname, rfl⟩)
    | operator hoperator =>
      exact (resolveDefault_keyword _).trans (resolveKeyword_eq_error.2 (.inl ⟨hoperator, rfl⟩))
    | code hoperator hcode =>
      exact (resolveDefault_keyword _).trans
        (resolveKeyword_eq_error.2 (.inr ⟨_, hoperator, hcode, rfl⟩))
    | argument hargument => exact resolveDefault_of_no_argument hargument
    | type hargument => exact absurd hargument (no_argument_of_none h _)
    | typeName hargument => exact absurd hargument (no_argument_of_none h _)
    | kind hkind => exact resolveDefault_kind hkind

/-- The defects of a cast itself are those of its type. -/
theorem castType_eq_error (h : castArgument? level = some argument) :
    castType level.2 = .error e ↔ HasDefect level e := by
  obtain ⟨htag, hargument⟩ := castArgument?_eq_some.1 h
  constructor
  · intro hfails
    obtain ⟨tag, body⟩ := level
    cases htag
    rw [castType, bind_eq_error, require_eq_error] at hfails
    rcases hfails with ⟨htype, rfl⟩ | ⟨node, htype, hname⟩
    · exact .type hargument htype
    · rw [typeName, requireLastName_eq_error] at hname
      obtain ⟨hname, rfl⟩ := hname
      exact .typeName hargument (require_eq_ok.1 htype) hname
  · intro hdefect
    rw [castType, bind_eq_error, require_eq_error]
    cases hdefect with
    | argument hnone => exact absurd hargument (hnone _)
    | type _ htype => exact .inl ⟨htype, rfl⟩
    | typeName _ htype hname =>
      exact .inr ⟨_, require_eq_ok.2 htype, requireLastName_eq_error.2 ⟨hname, rfl⟩⟩
    | kind hkind => exact absurd (by simp_all) hkind
    | value | function | operator | code => exact absurd htag (by simp)

/-- A cast fails with its argument, or with its own type after that. -/
theorem resolveDefault_eq_error_of_argument (h : castArgument? level = some argument) :
    resolveDefault level.1 level.2 = .error e ↔
      resolveDefault argument.1 argument.2 = .error e ∨
        (∃ value, resolveDefault argument.1 argument.2 = .ok value) ∧ HasDefect level e := by
  obtain ⟨htag, hargument⟩ := castArgument?_eq_some.1 h
  rw [htag, resolveDefault_cast hargument, bind_eq_error, ← castType_eq_error h]
  refine or_congr_right ?_
  rw [← exists_and_right]
  refine exists_congr fun value => and_congr_right fun _ => ?_
  rw [bind_eq_error, or_iff_left]
  rintro ⟨type, -, hpure⟩
  cases hpure

/-- An expression has a value when no level of it has a defect. -/
theorem resolves_iff_sound (level : String × Json) :
    (∃ value, resolveDefault level.1 level.2 = .ok value) ↔ Sound level := by
  rw [exists_ok_iff]
  induction level using levels.induct with
  | case1 level h =>
    rw [sound_of_none h]
    exact forall_congr' fun e => not_congr (resolveDefault_eq_error_of_none h)
  | case2 level argument h ih =>
    rw [sound_of_argument h, ← ih]
    simp only [ne_eq, resolveDefault_eq_error_of_argument h, exists_ok_iff, not_or, not_and]
    constructor
    · intro hnone
      have hargument := fun e => (hnone e).1
      exact ⟨fun e => (hnone e).2 hargument, hargument⟩
    · rintro ⟨hown, hargument⟩ e
      exact ⟨hargument e, fun _ => hown e⟩

/-- **An expression fails with its innermost defect**, whatever is wrong with the casts around it. -/
theorem resolveDefault_eq_error (level : String × Json) :
    resolveDefault level.1 level.2 = .error e ↔ InnermostDefect level e := by
  induction level using levels.induct with
  | case1 level h => rw [resolveDefault_eq_error_of_none h, innermostDefect_of_none h]
  | case2 level argument h ih =>
    rw [resolveDefault_eq_error_of_argument h, innermostDefect_of_argument h, ih,
      resolves_iff_sound]

end Defects

/-! ## What a value shows of itself -/

section Observers

variable {tag : String} {body : Json} {types : List String} {innermost : DefaultValue}

@[simp] theorem castTo_cons (type : String) (types : List String) (value : DefaultValue) :
    castTo (type :: types) value = .cast (castTo types value) type := rfl

/-- What the value of an expression shows of itself: of its casts only the type of the outermost one,
and whether there are any. -/
structure Shows (tag : String) (types : List String) (innermost value : DefaultValue) : Prop where
  uncast : ∀ inner type, innermost ≠ .cast inner type
  declaredType : value.declaredType = types.headD innermost.declaredType
  literalText : value.literalText = innermost.literalText
  isNull : value.isNull = innermost.isNull
  rawSql : value.rawSql?.isSome = true ↔ tag = "FuncCall" ∨ tag = "SQLValueFunction"

theorem declaredType_castTo (types : List String) (value : DefaultValue) :
    (castTo types value).declaredType = types.headD value.declaredType := by
  cases types <;> rfl

theorem literalText_castTo (types : List String) (value : DefaultValue) :
    (castTo types value).literalText = value.literalText := by
  induction types with
  | nil => rfl
  | cons type types ih => rwa [castTo_cons, DefaultValue.literalText]

theorem isNull_castTo (types : List String) (value : DefaultValue) :
    (castTo types value).isNull = value.isNull := by
  induction types with
  | nil => rfl
  | cons type types ih => rwa [castTo_cons, DefaultValue.isNull]

theorem Mirrors.uncast (h : Mirrors tag body types innermost) (inner : DefaultValue)
    (type : String) : innermost ≠ .cast inner type := by
  induction h with
  | constant | call | keyword => nofun
  | cast _ _ _ ih => exact ih

/-- A call and a keyword function are expressions for the database when they are not cast. -/
theorem Mirrors.rawSql?_isSome (h : Mirrors tag body types innermost) :
    (castTo types innermost).rawSql?.isSome = true ↔
      tag = "FuncCall" ∨ tag = "SQLValueFunction" := by
  cases h <;> simp [castTo, DefaultValue.rawSql?]

theorem Mirrors.shows (h : Mirrors tag body types innermost) :
    Shows tag types innermost (castTo types innermost) where
  uncast := h.uncast
  declaredType := declaredType_castTo types innermost
  literalText := literalText_castTo types innermost
  isNull := isNull_castTo types innermost
  rawSql := h.rawSql?_isSome

end Observers

/-- **Default expressions are read by their grammar.** The ones it derives have a value, which repeats
the casts and shows the outermost type and what stands innermost. The others fail with their
innermost defect. -/
theorem resolveDefault_grammar (tag : String) (body : Json) :
    ((∃ value, resolveDefault tag body = .ok value) ↔ Derivable tag body) ∧
      (∀ value, resolveDefault tag body = .ok value ↔
        ∃ types innermost, Mirrors tag body types innermost ∧ value = castTo types innermost) ∧
      (∀ types innermost, Mirrors tag body types innermost →
        Shows tag types innermost (castTo types innermost)) ∧
      ∀ e, resolveDefault tag body = .error e ↔ InnermostDefect (tag, body) e := by
  refine ⟨?_, fun _ => resolveDefault_eq_ok, fun _ _ => Mirrors.shows, fun _ =>
    resolveDefault_eq_error (tag, body)⟩
  simp only [derivable_iff, resolveDefault_eq_ok]
  constructor
  · rintro ⟨value, types, innermost, h, -⟩
    exact ⟨types, innermost, h⟩
  · rintro ⟨types, innermost, h⟩
    exact ⟨_, types, innermost, h, rfl⟩

end EntSchema.ParseTree
