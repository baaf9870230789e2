import CallChains.Console.Color
/-!
Styles of console text. Two texts that say the same of a style, such as `b red`
and `Red bold`, have the same normal form.
-/

namespace CallChains

inductive TextEffect where
  | bold | dim | italic | underline | blink | blink2 | reverse | conceal
  | strike | underline2 | frame | encircle | overline
  deriving DecidableEq, Repr

namespace TextEffect

def all : List TextEffect :=
  [.bold, .dim, .italic, .underline, .blink, .blink2, .reverse, .conceal,
    .strike, .underline2, .frame, .encircle, .overline]

def name : TextEffect → String
  | .bold => "bold"
  | .dim => "dim"
  | .italic => "italic"
  | .underline => "underline"
  | .blink => "blink"
  | .blink2 => "blink2"
  | .reverse => "reverse"
  | .conceal => "conceal"
  | .strike => "strike"
  | .underline2 => "underline2"
  | .frame => "frame"
  | .encircle => "encircle"
  | .overline => "overline"

def shortName? : TextEffect → Option String
  | .bold => some "b"
  | .dim => some "d"
  | .italic => some "i"
  | .underline => some "u"
  | .reverse => some "r"
  | .conceal => some "c"
  | .strike => some "s"
  | .underline2 => some "uu"
  | .overline => some "o"
  | .blink | .blink2 | .frame | .encircle => none

def ofWord? (word : String) : Option TextEffect :=
  all.find? fun effect => effect.name = word || effect.shortName? = some word

theorem ofWord?_name (effect : TextEffect) :
    ofWord? effect.name = some effect := by
  cases effect <;> rfl

end TextEffect

structure Style where
  /-- Effects that are set or taken away, the last word on an effect first. -/
  effects : List (TextEffect × Bool) := []
  color : Option String := none
  background : Option String := none
  link : Option String := none
  deriving DecidableEq, Repr

namespace Style

def withEffect (style : Style) (effect : TextEffect) (value : Bool) : Style :=
  { style with effects := (effect, value) :: style.effects }

def effect? (style : Style) (effect : TextEffect) : Option Bool :=
  (style.effects.find? fun entry => entry.1 = effect).map Prod.snd

/-- What a style says when words are added to it. Three words ask for another
one: `on` for the colour of the background, `not` for an effect to take away,
and `link` for an address. -/
def withWords (style : Style) : List String → Except StyleFault Style
  | [] => .ok style
  | word :: rest =>
      match Text.lowerCase word, rest with
      | "on", next :: rest => do
          let background ← Color.ofWord next
          { style with background := some background }.withWords rest
      | "not", next :: rest =>
          match TextEffect.ofWord? next with
          | some effect => (style.withEffect effect false).withWords rest
          | none => .error .unknown
      | "link", next :: rest => { style with link := some next }.withWords rest
      | small, rest =>
          match TextEffect.ofWord? small with
          | some effect => (style.withEffect effect true).withWords rest
          | none => do
              let color ← Color.ofWord small
              { style with color := some color }.withWords rest

/-- The style that a text stands for. The word `none`, alone, leaves everything
open. -/
def ofText (text : String) : Except StyleFault Style :=
  match Text.words text with
  | ["none"] => .ok {}
  | words => withWords {} words

def words (style : Style) : List String :=
  let effects := TextEffect.all.filterMap fun effect =>
    (style.effect? effect).map fun value =>
      if value then effect.name else "not " ++ effect.name
  effects ++ style.color.toList ++
    (style.background.toList.map ("on " ++ ·)) ++
    (style.link.toList.map ("link " ++ ·))

def text (style : Style) : String :=
  match style.words with
  | [] => "none"
  | words => " ".intercalate words

/-- The form in which the names of styles are compared: the text of the style,
or, for a text that is no style, the text in small letters without the blanks
around it. -/
def normalForm (text : String) : Except ShareFault String :=
  match ofText text with
  | .ok style => .ok style.text
  | .error .unknown =>
      .ok (Text.lowerCase (String.ofList (Text.strip text.toList)))
  | .error (.share fault) => .error fault

end Style

end CallChains
