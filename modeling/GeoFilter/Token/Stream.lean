import GeoFilter.Diagnostic
import GeoFilter.Token.Lexeme

/-!
The tokens of a text. They are read one after another until the text ends or a piece
of it is no token.
-/

namespace GeoFilter

open Text

/-- The tokens that were read, and the error that stopped the reading, if one did.
Without an error the last token is the end of input. -/
structure TokenStream where
  tokens : List Token
  failure : Option CompileError

def TokenStream.cons (token : Token) (stream : TokenStream) : TokenStream :=
  { stream with tokens := token :: stream.tokens }

/-- Reads the tokens of a text that begins at the given place. The count is at least
the number of characters that are left, so that nothing is left when it is zero. -/
def readTokens (d : Dialect) : Nat → Position → List Char → TokenStream
  | 0, here, _ => ⟨[⟨.endOfInput, "", here⟩], none⟩
  | count + 1, here, text =>
      let start := here.advance (text.takeWhile isBlank)
      match text.dropWhile isBlank with
      | [] => ⟨[⟨.endOfInput, "", start⟩], none⟩
      | c :: rest =>
          match lexeme d c rest with
          | .error fault => ⟨[], some (.report fault start)⟩
          | .ok (kind, run) =>
              (readTokens d count (start.advance run) ((c :: rest).drop run.length)).cons
                ⟨kind, String.ofList run, start⟩

/-- The tokens of a text, as far as they can be read. -/
def tokenStream (d : Dialect) (text : String) : TokenStream :=
  readTokens d text.toList.length .start text.toList

/-- The tokens of a text, of which every piece has to be one. -/
def tokenize (d : Dialect) (text : String) : Except CompileError (List Token) :=
  let stream := tokenStream d text
  match stream.failure with
  | some error => .error error
  | none => .ok stream.tokens

end GeoFilter
