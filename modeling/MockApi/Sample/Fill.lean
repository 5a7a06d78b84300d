import MockApi.Sample.Blank
import MockApi.Sample.Provider
import MockApi.Template.Filler
import MockApi.Template.Render
import MockApi.Text.Casing

/-!
# Filling blanks

* `formatterNames` : the names that a blank can be filled from;
* `resolve?` : the formatter that the name of a blank stands for;
* `SampleSource.sampleText?` : the text of a fresh sample;
* `fillBlanks` : a text with its blanks filled;
* `listGenerators` : the blanks of a category, each with a sample.
-/

namespace MockApi

/-- Names that do not become the name of their formatter by the rules of `candidates`. -/
def formatterAliases : List (String × String) :=
  [("name.findname", "name"), ("name.fullname", "name"), ("name.jobtitle", "job"),
    ("company.companyname", "company"), ("company.catchphrase", "catch_phrase"),
    ("internet.username", "user_name"), ("internet.avatar", "image_url"), ("internet.url", "url"),
    ("address.zipcode", "postcode"), ("address.streetaddress", "street_address"),
    ("address.country", "country"), ("phone.phonenumber", "phone_number"),
    ("random.number", "random_int"), ("random.uuid", "uuid4"), ("datatype.number", "random_int"),
    ("datatype.uuid", "uuid4"), ("datatype.boolean", "boolean"), ("lorem.paragraph", "paragraph"),
    ("lorem.words", "sentence"), ("date.past", "past_datetime"), ("date.future", "future_datetime"),
    ("date.recent", "date_time_this_month"), ("finance.amount", "pricetag"),
    ("finance.account", "bban"), ("commerce.productname", "catch_phrase"),
    ("image.imageurl", "image_url"), ("system.filename", "file_name")]

/-- Formatters that blanks are not filled from: they give no short text. -/
def excludedFormatters : List String :=
  ["binary", "csv", "dsv", "fixed_width", "image", "json", "json_bytes", "psv", "tar", "tsv", "xml",
    "zip"]

/-- Whether blanks may be filled from a name: it is neither hidden nor excluded. -/
def isPublicName (name : String) : Bool :=
  name.toList.head? != some '_' && !excludedFormatters.contains name

/-- The names that a provider lets blanks be filled from. -/
def Provider.names (p : Provider) : List String :=
  (p.attributes.filter fun (name, callable) => isPublicName name && callable).map Prod.fst

def formatterNames (providers : List Provider) : List String := providers.flatMap Provider.names

def textLess (s t : String) : Bool := s < t

/-- Texts in order, each once. -/
def sortedTexts (texts : List String) : List String :=
  (texts.mergeSort fun s t => !textLess t s).eraseDups

/-- The characters of a name with an underscore before each capital letter but the first
character. -/
def underscored : (first : Bool) → List Char → List Char
  | _, [] => []
  | first, c :: rest => (if c.isUpper && !first then ['_', c] else [c]) ++ underscored false rest

def snakeCase (name : String) : String :=
  Text.lowerString (String.ofList (underscored true name.toList))

/-- A dotted name cut at its last point; there is nothing before one that has no point. -/
def cutAtLastPoint (name : String) : String × String :=
  let parts := Text.split '.' name
  (Text.joinWith "." parts.dropLast, parts.getLast?.getD "")

/-- The names of formatters that the name of a blank may stand for, the best one first. -/
def candidates (name : String) : List String :=
  let (category, field) := cutAtLastPoint name
  let plain := [(formatterAliases.lookup (Text.lowerString name)).getD "", snakeCase field]
  if category.isEmpty then plain
  else plain ++ [snakeCase category ++ "_" ++ snakeCase field, snakeCase category]

/-- The name of the formatter that the name of a blank stands for. -/
def resolve? (providers : List Provider) (name : String) : Option String :=
  (candidates name).find? fun candidate => (formatterNames providers).contains candidate

/-! ## Filling -/

/-- Whether a blank stays as it is when there is no sample for this reason. -/
def SampleFailure.isHarmless : SampleFailure → Bool
  | .kind => true
  | .value => true
  | .other _ => false

variable {σ : Type}

/-- The text of a fresh sample, or nothing if there is none for a harmless reason. -/
def SampleSource.sampleText? (source : SampleSource σ) (name : String) :
    ExceptT SampleFailure (StateM σ) (Option Text) := fun s =>
  let (sample, s) := (source.call name).run s
  match sample.bind Sample.render with
  | .ok text => (.ok (some text), s)
  | .error failure => (if failure.isHarmless then .ok none else .error failure, s)

def fillPiece (source : SampleSource σ) : Blank.Piece → ExceptT SampleFailure (StateM σ) Text
  | .literal c => return [c]
  | .blank written blank =>
    match resolve? source.providers blank.lossy with
    | none => return written
    | some name => do
      let text? ← source.sampleText? name
      return text?.getD written

/-- A text cut at its blanks, with each of them filled with a fresh sample. -/
def fillPieces (source : SampleSource σ) (text : Text) : ExceptT SampleFailure (StateM σ) Text := do
  let parts ← (Blank.pieces text).mapM (fillPiece source)
  return parts.flatten

/-- A text with each of its blanks filled with a fresh sample. A blank that stands for nothing stays,
and samples are not searched for blanks. A text without two opening braces is not searched at all. -/
def fillBlanks (source : SampleSource σ) : Filler σ SampleFailure := fun text =>
  if (Text.splitAtFirst "\x7b\x7b" text).isNone then return text else fillPieces source text

/-! ## Listing -/

def everyCategory : String := "all"

/-- The blanks of some names of a provider, each with a sample. -/
def listNames (source : SampleSource σ) (group : String) :
    List String → ExceptT SampleFailure (StateM σ) (List (String × String))
  | [] => return []
  | name :: rest => do
    let text? ← source.sampleText? name
    let rows ← listNames source group rest
    match text? with
    | some text => return (group ++ "." ++ name, text.lossy) :: rows
    | none => return rows

/-- The names of a provider that are listed: any provider may be the one that lets them be called. -/
def Provider.listed (p : Provider) (providers : List Provider) : List String :=
  sortedTexts <| (p.attributes.map Prod.fst).filter fun name =>
    name.toList.head? != some '_' && (formatterNames providers).contains name

def listProviders (source : SampleSource σ) (category : String) :
    List Provider → ExceptT SampleFailure (StateM σ) (List (String × String))
  | [] => return []
  | p :: rest =>
    if category == everyCategory || p.group == category then do
      let rows ← listNames source p.group (p.listed source.providers)
      let more ← listProviders source category rest
      return rows ++ more
    else listProviders source category rest

def rowLess (a b : String × String) : Bool :=
  textLess a.1 b.1 || (a.1 == b.1 && textLess a.2 b.2)

/-- The blanks of a category in order, each with a sample. -/
def listGenerators (source : SampleSource σ) (category : String) :
    ExceptT SampleFailure (StateM σ) (List (String × String)) := do
  let rows ← listProviders source category source.providers
  return (rows.mergeSort fun a b => !rowLess b a).eraseDups

end MockApi
