import ApiAccessors.Template.Layout
import ApiAccessors.Template.Slot

namespace ApiAccessors
namespace Template

/-!
# The client factory

The text of the module that makes clients, with the settings that were chosen when the package was
generated.
-/

structure FactorySettings where
  runtimeImport : Value
  baseUrl : Value
  apiPrefix : Value
  tokenVariable : Value

/-- The docstring of the client factory. -/
def factoryHeading (title : String) (settings : FactorySettings) : String :=
  "Client factory for the generated " ++ title ++
    unlines [" accessors.", "",
      "Defaults below were chosen at generation time; every one of them can be",
      "overridden per call:", "",
      "    client = create_client(api_prefix=\"/api/v2\", token=\"...\")", ""] ++
    "When no token is passed, the " ++ settings.tokenVariable.display ++
    unlines [" environment variable is used."]

/-- The code of the client factory behind its last docstring. -/
def factoryBody : String := unlines [
  "",
  "    overrides.setdefault(\"token\", os.environ.get(TOKEN_ENV_VAR))",
  "    overrides.setdefault(\"api_prefix\", os.environ.get(\"API_PREFIX\", DEFAULT_API_PREFIX))",
  "    base_url = overrides.pop(" ++
    "\"base_url\", os.environ.get(\"API_BASE_URL\", DEFAULT_BASE_URL))",
  "    return ApiClient(base_url, **overrides)"]

/-- The layout of the client factory for an interface with a title. -/
def factoryLayout (title : String) (settings : FactorySettings) : Layout := [
  .docstring (factoryHeading title settings),
  .code (unlines ["", "", "from __future__ import annotations", "", "import os",
      "from typing import Any", "",
      "from " ++ settings.runtimeImport.display ++ " import ApiClient", "",
      "DEFAULT_BASE_URL = " ++ settings.baseUrl.quoted,
      "DEFAULT_API_PREFIX = " ++ settings.apiPrefix.quoted,
      "TOKEN_ENV_VAR = " ++ settings.tokenVariable.quoted, "", "",
      "def create_client(**overrides: Any) -> ApiClient:"] ++ "    "),
  .docstring "Return a new ApiClient configured with the generation-time defaults.",
  .code factoryBody]

/-- The text of the client factory for a package record, which must have a title. -/
def factory (package : Value) (settings : FactorySettings) : Except Fault String := do
  let title ← package.entry "api_title"
  pure (factoryLayout title.display settings).text

end Template
end ApiAccessors
