import ArrivalRamp.Config.Basic

/-!
Variables and options that stand in for parts of a configuration.
-/

namespace ArrivalRamp

/-- Texts of variables by their names. -/
abbrev Overrides := List (String × String)

namespace Overrides

/-- The variables that stand in for parts of a configuration. -/
def names : List String := ["BASE_URL", "AUTH_TOKEN", "APP_NAME", "ENV"]

/-- The text of a variable, unless it is empty. -/
def nonempty? (overrides : Overrides) (name : String) : Option String :=
  (overrides.lookup name).filter fun text => !text.isEmpty

end Overrides

namespace Config

/-- Variables that have a text and are not empty replace what the configuration says. -/
def override (overrides : Overrides) (config : Config) : Config :=
  { config with
    baseUrl := overrides.nonempty? "BASE_URL" <|> config.baseUrl
    authToken := overrides.nonempty? "AUTH_TOKEN" <|> config.authToken
    appName := overrides.nonempty? "APP_NAME" <|> config.appName
    env := overrides.nonempty? "ENV" <|> config.env }

/-- A base address given as an option replaces any other. -/
def withBaseUrl (baseUrl : Option String) (config : Config) : Config :=
  { config with baseUrl := baseUrl <|> config.baseUrl }

/-- Strictness given as an option. -/
def withStrict (strict : Bool) (config : Config) : Config :=
  if strict then { config with strict := some true } else config

end Config

end ArrivalRamp
