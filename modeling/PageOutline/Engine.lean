import PageOutline.Recipe.Catalog
import PageOutline.Pass.Walk
import PageOutline.Pass.Metadata
import PageOutline.Pass.Visible
import PageOutline.Outline.Json

namespace PageOutline

structure Engine where
  catalog : Catalog
  settings : Settings
  registry : Registry
  deriving Inhabited

namespace Engine

variable {σ : Type} [LivePage σ]

def ofCatalog (catalog : Catalog) : Engine := ⟨catalog, {}, ∅⟩

def withSettings (e : Engine) (settings : Settings) : Engine := { e with settings }

def clearRegistry (e : Engine) : Engine := { e with registry := ∅ }

def ofText (table : FunctionTable) (text : String) : Except Failure Engine :=
  match CatalogFile.parse text with
  | .error fault => .error (.json fault)
  | .ok file => do
    let catalog ← file.build table
    return (ofCatalog catalog).withSettings file.settings

/-- One pass over the page: the recipe for its path, from the first element that the recipe matches,
or from the root where it matches none. -/
def pass (catalog : Catalog) (settings : Settings) (path : String) : Pass σ Outline := do
  let recipe ← Pass.onPage (catalog.select path)
  let root ← Pass.onPage LivePage.root
  let start := (← Pass.onPage (LivePage.queryFirst root recipe.selector)).getD root
  Pass.process settings recipe start "" 0

/-- Runs one pass over a page. Page and registry keep what it has done when it fails. -/
def processPage (e : Engine) (page : σ) (path : String) : Except Failure Outline × Engine × σ :=
  match pass e.catalog e.settings path ⟨page, e.registry⟩ with
  | (result, session) => (result, { e with registry := session.registry }, session.page)

end Engine

end PageOutline
