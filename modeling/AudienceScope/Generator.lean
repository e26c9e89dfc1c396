import AudienceScope.Json.Record

/-!
The generators that consume pruned documents. Filtering does not depend on them.
-/

set_option autoImplicit false

namespace AudienceScope

inductive Generator where
  | typescript
  | typescriptSdk
  | java
  | javaSdk
  | python
  | openapi
  | postman
deriving DecidableEq

namespace Generator

def all : List Generator :=
  [typescript, typescriptSdk, java, javaSdk, python, openapi, postman]

def name : Generator → String
  | typescript => "fernapi/fern-typescript"
  | typescriptSdk => "fernapi/fern-typescript-sdk"
  | java => "fernapi/fern-java"
  | javaSdk => "fernapi/fern-java-sdk"
  | python => "fernapi/fern-python"
  | openapi => "fernapi/fern-openapi"
  | postman => "fernapi/fern-postman"

def ofName? (name : String) : Option Generator :=
  all.find? fun generator => generator.name = name

def unknownMessage (name : String) : String := "unknown generator '" ++ name ++ "'"

def index (generator : Generator) : Nat := all.idxOf generator

def read : Json.Reading Generator := fun origin tree =>
  match Json.readText origin tree with
  | .error error => .error error
  | .ok text =>
    match ofName? text with
    | some generator => .ok generator
    | none => .error (.mismatch (.refused (unknownMessage text)))

end Generator

end AudienceScope
