/-!
The patterns of LIKE. Three characters have a meaning of their own: one stands for
any run of characters, one for any single character, and one takes the meaning away
from the character behind it.
-/

namespace GeoFilter

structure LikeCharacters where
  wildcard : Char
  single : Char
  escape : Char
deriving DecidableEq, Repr

namespace LikeCharacters

/-- The characters of a filter language that does not say otherwise. -/
def standard : LikeCharacters := ⟨'%', '_', '\\'⟩

def isSpecial (characters : LikeCharacters) (c : Char) : Bool :=
  c == characters.wildcard || c == characters.single || c == characters.escape

/-- Respells a pattern with other special characters. An ordinary character that the
target treats as special is escaped; an escaped one stays escaped. -/
def respell (source target : LikeCharacters) : List Char → List Char
  | [] => []
  | c :: rest =>
      if c == source.escape then
        match rest with
        | [] => [target.escape]
        | escaped :: later => target.escape :: escaped :: respell source target later
      else if c == source.wildcard then
        target.wildcard :: respell source target rest
      else if c == source.single then
        target.single :: respell source target rest
      else if target.isSpecial c then
        target.escape :: c :: respell source target rest
      else
        c :: respell source target rest

end LikeCharacters

end GeoFilter
