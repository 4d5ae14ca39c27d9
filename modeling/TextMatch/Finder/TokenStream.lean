import TextMatch.Finder

/-!
# Streams of tokens

A finder cuts a text into tokens: its matches, and the fragments between them.  Each search starts
behind the capture of the match before, so that a ghost is looked at again.  A match that captures
nothing would never get past its place; it is reported as a failure, which ends the stream.
-/

namespace TextMatch

/-- Whether a token is a match or lies between matches. -/
inductive TokenKind where
  | found
  | fragment
deriving DecidableEq, Repr

/-- A piece of a text. -/
structure Token where
  category : String
  kind : TokenKind
  text : View
deriving DecidableEq, Repr

/-- The tokens of a text that are still to come. -/
structure TokenStream where
  finder : Finder
  view : View
  /-- Where the next search starts. -/
  offset : Nat
  /-- A match whose fragment has been given out already. -/
  pending : Option Token
  /-- Whether nothing is to come but the pending token. -/
  isDone : Bool
  /-- What the last search leaves to the next one. -/
  cache : LiteralSet.ScanCache

/-- What a stream gives out. -/
abbrev TokenStream.Item := Except Failure Token

namespace TokenStream

def start (finder : Finder) (view : View) : TokenStream where
  finder := finder
  view := view
  offset := 0
  pending := none
  isDone := false
  cache := .empty

def token (stream : TokenStream) (kind : TokenKind) (text : View) : Token :=
  ⟨stream.finder.category, kind, text⟩

/-- Gives out what was found: the match, with the fragment before it if there is one, or the rest of
the text. -/
def afterFound (stream : TokenStream) (found : Found) : Option Item × TokenStream :=
  let done := { stream with isDone := true }
  match found.matched with
  | none =>
      if found.fragment.isEmpty then
        (none, done)
      else
        (some (.ok (stream.token .fragment found.fragment)), done)
  | some cursor =>
      if cursor.isEmptyMatch then
        (some (.error (.zeroWidthMatch cursor.start)), done)
      else
        match cursor.captured with
        | .error failure => (some (.error failure), done)
        | .ok captured =>
            let token := stream.token .found captured
            let moved := { stream with offset := cursor.captureEnd }
            if found.fragment.isEmpty then
              (some (.ok token), moved)
            else
              (some (.ok (stream.token .fragment found.fragment)),
                { moved with pending := some token })

/-- Gives out what a search has come to.  A failure ends the stream. -/
def afterSearch (stream : TokenStream) (result : Except Failure Found) :
    Option Item × TokenStream :=
  match result with
  | .error failure => (some (.error failure), { stream with isDone := true })
  | .ok found => stream.afterFound found

/-- The next token, if there is one, and the stream behind it. -/
def next (stream : TokenStream) : Option Item × TokenStream :=
  match stream.pending with
  | some token => (some (.ok token), { stream with pending := none })
  | none =>
      if stream.isDone || decide (stream.view.length ≤ stream.offset) then
        (none, { stream with isDone := true })
      else
        match Cursor.atOffset stream.view stream.offset with
        | .error failure => (some (.error failure), { stream with isDone := true })
        | .ok cursor =>
            let (result, cache) := stream.finder.findWith cursor stream.cache
            { stream with cache := cache }.afterSearch result

/-- The next `count` tokens, or as many as there are, and the stream behind them. -/
def take : (count : Nat) → TokenStream → List Item × TokenStream
  | 0, stream => ([], stream)
  | count + 1, stream =>
      match stream.next with
      | (none, later) => ([], later)
      | (some item, later) =>
          let (items, last) := take count later
          (item :: items, last)

/-- All that a stream gives out.  No token is empty and a failure ends the stream, so that there
are no more items than code units and one failure. -/
def drain (stream : TokenStream) : List Item × TokenStream :=
  stream.take (stream.view.length + 2)

end TokenStream

namespace Finder

/-- What the stream of the tokens of a view gives out. -/
def items (finder : Finder) (view : View) : List TokenStream.Item :=
  (TokenStream.start finder view).drain.1

/-- All tokens of a view, or the failure that ends the stream. -/
def tokens (finder : Finder) (view : View) : Except Failure (List Token) :=
  (finder.items view).mapM id

end Finder

end TextMatch
