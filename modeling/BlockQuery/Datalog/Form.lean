import BlockQuery.Calendar.MonthName
import BlockQuery.Datalog.Literal

/-!
# Forms of a where section

The conditions of a Datalog query are forms over variables: data patterns,
predicates, and the connectives `and`, `or-join` and `not`. An `or-join` carries
only the subject into its branches. `Form.render` writes a form as text.
-/

namespace BlockQuery.Datalog

/-- The variables that occur in a query. -/
inductive Var
  /-- The block that is matched. -/
  | subject
  | blockText
  | blockUid
  | page
  | pageTitle
  /-- The page that a request is restricted to. -/
  | targetPage
  /-- The page that a block refers to, numbered within a query. -/
  | pageRef (index : Nat)
  /-- The block that a block refers to, numbered together with the pages. -/
  | blockRef (index : Nat)
  | startDate (index : Nat)
  | endDate (index : Nat)
  | createTime
  | dailyPage
  | dailyTitle
  | creator
  | editor
  | eitherCreator
  | eitherEditor
deriving DecidableEq, Repr

/-- The spelling of a variable. -/
def Var.name : Var → String
  | subject => "?b"
  | blockText => "?block-str"
  | blockUid => "?block-uid"
  | page => "?p"
  | pageTitle => "?page-title"
  | targetPage => "?target-page-uid"
  | pageRef index => s!"?ref-{index}"
  | blockRef index => s!"?block-ref-{index}"
  | startDate index => s!"?start-date-{index}"
  | endDate index => s!"?end-date-{index}"
  | createTime => "?create-time"
  | dailyPage => "?daily-page"
  | dailyTitle => "?daily-title"
  | creator => "?creator"
  | editor => "?editor"
  | eitherCreator => "?by-creator"
  | eitherEditor => "?by-editor"

/-- The attributes of a graph's facts. -/
inductive Attribute
  | blockString
  | blockUid
  | blockPage
  | blockRefs
  | nodeTitle
  | createTime
  | createUser
  | editUser
  | displayName
deriving DecidableEq, Repr

/-- The spelling of an attribute. -/
def Attribute.name : Attribute → String
  | blockString => ":block/string"
  | blockUid => ":block/uid"
  | blockPage => ":block/page"
  | blockRefs => ":block/refs"
  | nodeTitle => ":node/title"
  | createTime => ":create/time"
  | createUser => ":create/user"
  | editUser => ":edit/user"
  | displayName => ":user/display-name"

/-- The value position of a data pattern. -/
inductive Term
  | var (v : Var)
  | text (s : String)
deriving DecidableEq, Repr

/-- A term as text. -/
def Term.render : Term → String
  | var v => v.name
  | text s => quote s

/-- A condition of a query. -/
inductive Form
  /-- The entity has the value under the key. -/
  | fact (entity : Var) (key : Attribute) (value : Term)
  | atLeast (value bound : Var)
  | atMost (value bound : Var)
  /-- The variable's text contains a text. -/
  | includes (value : Var) (part : String)
  /-- The variable's text is the title of a daily page. -/
  | isDailyTitle (value : Var)
  | and (forms : List Form)
  /-- Some branch holds with only the subject carried in. -/
  | orJoin (branches : List Form)
  | not (form : Form)
deriving Repr

/-- The regular expression of daily page titles. -/
def dailyTitlePattern : String :=
  "#\"^(" ++ "|".intercalate Calendar.monthNames ++
    ") \\d\x7b1,2\x7d(st|nd|rd|th), \\d\x7b4\x7d$\""

namespace Form

mutual

/-- A form as text. -/
def render : Form → String
  | fact entity key value => s!"[{entity.name} {key.name} {value.render}]"
  | atLeast value bound => s!"[(>= {value.name} {bound.name})]"
  | atMost value bound => s!"[(<= {value.name} {bound.name})]"
  | includes value part => s!"[(clojure.string/includes? {value.name} {quote part})]"
  | isDailyTitle value => s!"[(re-find {dailyTitlePattern} {value.name})]"
  | and forms => "(and " ++ " ".intercalate (renderEach forms) ++ ")"
  | orJoin branches =>
    "(or-join [" ++ Var.subject.name ++ "] " ++ " ".intercalate (renderEach branches) ++ ")"
  | not form => "(not " ++ render form ++ ")"

/-- The texts of several forms. -/
def renderEach : List Form → List String
  | [] => []
  | form :: forms => render form :: renderEach forms

end

/-- Rendering several forms renders each of them. -/
theorem renderEach_eq_map (forms : List Form) : renderEach forms = forms.map render := by
  induction forms with
  | nil => rfl
  | cons form forms ih => simp [renderEach, ih]

/-- Several forms as one; a single form stands for itself. -/
def group : List Form → Form
  | [form] => form
  | forms => and forms

end Form

end BlockQuery.Datalog
