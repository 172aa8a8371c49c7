import ServerSymbols.Symbol.Resolver

set_option autoImplicit false

/-
One generation run: a model and the settings that name the service to generate.
-/
namespace ServerSymbols

structure Context where
  model : Model
  settings : Settings

namespace Context

/-- The settings have to name a service of the model. -/
def make (model : Model) (settings : Settings) : Except SymbolError Context := do
  let _ ← (model.expectService settings.service).mapError .ofModel
  .ok { model, settings }

def analysis (c : Context) : Analysis where
  model := c.model
  service := c.settings.service
  strategy := c.settings.codegen.strategy

def base (c : Context) : BaseSymbols where
  model := c.model
  runtime := c.settings.runtime

def resolver (c : Context) : Resolver where
  analysis := c.analysis
  base := c.base

end Context

end ServerSymbols
