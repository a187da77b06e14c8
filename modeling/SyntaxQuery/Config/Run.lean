import SyntaxQuery.Config.Load
import SyntaxQuery.Engine.Standard
import SyntaxQuery.Provider.Stream
import SyntaxQuery.Toml.Reader

/-! What a query file settles about a run: the limits of the search and the size of a read. -/
namespace SyntaxQuery

def ProviderConfig.reader (config : ProviderConfig) (stream : Stream) : StreamReader :=
  .withChunkSize stream config.chunkSize

def CompiledQuery.cursor [Engine] (compiled : CompiledQuery) : Cursor := .withConfig compiled.config.cursor

end SyntaxQuery
