import MockApi.Template.Render
import MockApi.Text.CharRange

/-!
# Sources of sample values

* `Provider` : names under the name of a module, some of which can be called;
* `Provider.group` : the category of a provider;
* `Sample` : what a call gives, and `Sample.render` the text for it;
* `SampleSource` : providers, with what a call of a name does;
* `SampleSource.recorded` : the source, which writes down the names that are called.

What a call does is up to the source: it may give another sample each time, fail at one time and not at
another, and change what later calls of other names do.
-/

namespace MockApi

/-- Why there is no sample. -/
inductive SampleFailure where
  /-- The name cannot be called this way, or what it gives has no text. -/
  | kind
  /-- There is no value, or it has no text. -/
  | value
  | other (name : String)
  deriving DecidableEq, Repr

/-- Names under the name of a module. -/
structure Provider where
  moduleName : String
  /-- The names, with whether they can be called. -/
  attributes : List (String × Bool)

/-- The category of a provider: the third part of the name of a module of providers. -/
def Provider.group (p : Provider) : String :=
  match Text.split '.' p.moduleName with
  | "faker" :: "providers" :: name :: _ => name
  | _ => "base"

/-- What a call gives. -/
inductive Sample where
  | value (v : Value)
  /-- What is no JSON value, such as a date, with the outcome of writing it as a text. -/
  | other (text : Except SampleFailure Text)

def Sample.render : Sample → Except SampleFailure Text
  | .value v => v.render.mapError fun _ => .value
  | .other text => text

/-- Providers, with what a call of a name does; `σ` is what calls may change. -/
structure SampleSource (σ : Type) where
  providers : List Provider
  call : String → ExceptT SampleFailure (StateM σ) Sample

/-- The source, which writes down the names that are called. -/
def SampleSource.recorded {σ : Type} (source : SampleSource σ) : SampleSource (σ × List String) where
  providers := source.providers
  call name s :=
    let (sample, state) := (source.call name).run s.1
    (sample, state, s.2 ++ [name])

def SampleSource.empty : SampleSource Unit where
  providers := []
  call _ := throw (.other "AttributeError")

end MockApi
