import Showrunner.Command.Registry

namespace Showrunner

structure CommandEntry where
  id : String
  pattern : String
  handler : Handler
  help : String

/-- The commands every show begins with. Lines are tried in this order, so that `move window`
stands before `move`, and `put ... as` before the `put` that assigns. -/
def builtinEntries : List CommandEntry := [
  ⟨"echo", "|/echo|log : */rest", .echo,
    "echo <text>: print text"⟩,
  ⟨"from", "|/from|using|with : */rest", .useFolder,
    "from <folder>: load resources from a sub-folder"⟩,
  ⟨"load", "|/load|upload : +/filename ~/named &/tag ~/split ?/cols ?/by ?/rows", .load,
    "load <file> [named <tag>] [split <cols> by <rows>]: register an image, movie or sound"⟩,
  ⟨"unload", "|/unload|purge : >/tags", .unload,
    "unload <tags...>: forget resources"⟩,
  ⟨"play", "=/play : >/tags", .play,
    "play <tags...>: play sounds"⟩,
  ⟨"volume", "~/set |/volume|vol : ~/of +/tag ~/to +/value", .volume,
    "set volume of <tag> to <0-100>"⟩,
  ⟨"place",
    "=/place : +/itag ~/named &/stag ~/at +/x +/y ~/depth &/z |/size|scale ?/w ?/h", .place,
    "place <image> [named <sprite>] at <x> <y> [depth <z>] [size <w> <h> | scale <x%> <y%>]"⟩,
  ⟨"put",
    "=/put : +/itag ~/named &/stag ~/as |/background|top|bottom|left|right|ground|sky ~/depth &/depth",
    .put, "put <image> [named <sprite>] as <background|top|bottom|left|right|ground|sky>"⟩,
  ⟨"window", "=/window : +/stag ~/at +/ix +/iy +/iw +/ih", .window,
    "window <sprite> at <x> <y> <w> <h>: show part of an image"⟩,
  ⟨"zoom_window", "=/zoom =/window : +/tag ~/to +/iw +/ih ~/in */time", .zoomWindow,
    "zoom window <sprite> to <w> <h> [in <time>]"⟩,
  ⟨"move_window", "=/move =/window : ~/of +/tag ~/to +/ix +/iy ~/in */time", .moveWindow,
    "move window of <sprite> to <x> <y> [in <time>]"⟩,
  ⟨"remove", "|/remove|erase : >/tags", .remove,
    "remove <sprites...>"⟩,
  ⟨"move", "=/move : +/tag |/to|by +/x +/y |/in|at */rest", .move,
    "move <sprite> to|by <x> <y> [in <time> | at <speed>]"⟩,
  ⟨"speed", "~/set =/speed ~/of : +/tag ~/to +/speed ~/in */time", .speed,
    "set speed of <sprite> to <speed> [in <time>]"⟩,
  ⟨"blur", "~/set =/blur ~/of : +/tag ~/to +/blur ~/in */time", .blur,
    "set blur of <sprite> to <amount> [in <time>]"⟩,
  ⟨"size", "|/size|resize : +/tag ~/to +/width +/height ~/in */time", .resize,
    "size <sprite> to <w> <h> [in <time>]"⟩,
  ⟨"scale", "|/scale|rescale : +/tag |/by|to +/xpct #/ypct ~/in */time", .rescale,
    "scale <sprite> by|to <x%> [<y%>] [in <time>]"⟩,
  ⟨"rotate", "|/rotate|turn : +/tag |/to|by #/degrees ~/in */time", .rotate,
    "rotate <sprite> to|by <degrees> [in <time>]"⟩,
  ⟨"depth", "~/set |/raise|lower|depth ~/of : +/tag ~/depth |/by|to +/num", .depth,
    "raise|lower <sprite> by <n>, set depth of <sprite> to <z>"⟩,
  ⟨"frame", "|/advance|reverse : +/tag |/by|to #/num ~/frames", .frame,
    "advance|reverse <sprite> by|to <n> [frames]"⟩,
  ⟨"rate", "~/set |/frame|animation =/rate ~/of : +/tag ~/to +/value ~/in */time", .rate,
    "set frame rate of <sprite> to <fps> [in <time>]"⟩,
  ⟨"brightness",
    "~/set |/darken|darkness|lightness|lighten ~/of : +/tag ~/to +/value ~/in */time", .brightness,
    "darken|lighten <sprite> to <amount> [in <time>]"⟩,
  ⟨"transparency",
    "~/set |/trans|transparency ~/of : +/tag ~/to +/value ~/in */time", .transparency,
    "set transparency of <sprite> to <0-100> [in <time>]"⟩,
  ⟨"start", "|/start|run : >/list", .start,
    "start <scenes...>"⟩,
  ⟨"stop", "|/stop|disable : >/list", .stop,
    "stop [scenes...]: stop scenes, this one if none named"⟩,
  ⟨"show", "|/show|hide : +/tag ~/for */time", .visibility,
    "show|hide <sprite> [for <time>]"⟩,
  ⟨"pause", "|/pause|freeze : >/list", .pause,
    "pause <sprites...>"⟩,
  ⟨"resume", "|/resume|unfreeze : >/list", .resume,
    "resume <sprites...>"⟩,
  ⟨"make", "|/make|let|put : +/name ~/be ~/as ~/= */rest", .assign,
    "make <name> [be|as|=] <value>: set a variable"⟩,
  ⟨"create", "=/create |/group|text : +/item_name |/from|size */content", .create,
    "create group <tag> [size <w> <h>], create text <tag> from <content>"⟩,
  ⟨"set_text", "=/set |/content|text ~/of : +/text_item ~/to */rest", .setText,
    "set text of <tag> to <content>"⟩,
  ⟨"set_font", "=/set =/font : +/feature ~/of +/text_item ~/to */rest", .setFont,
    "set font <color|background|style|size> of <tag> to <value>"⟩,
  ⟨"add_to_group", "=/add ~/to =/group : +/group >/list", .addToGroup,
    "add to group <group> <sprites...>"⟩,
  ⟨"dump", "=/dump : >/list", .dump,
    "dump [vars|scenes|actions|triggers|sprites]"⟩,
  ⟨"exit", "|/exit|quit :", .exit,
    "exit: end the show"⟩]

def Registry.builtin : Registry :=
  ⟨builtinEntries.filterMap fun e =>
    (Registry.compile e.id e.pattern e.handler e.help).toOption⟩

end Showrunner
