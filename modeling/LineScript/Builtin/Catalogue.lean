import LineScript.Registry

/-!
The names and documentation of the built-in functions, in the order in which they are registered. Every
function has a Chinese name beside its English ones. The core functions are there from the start; those
of the modules `game` and `text` come with an import.
-/

namespace LineScript.Catalogue

/-- An entry that is traced. -/
def entry (name : String) (aliases : List String) (function : Builtin) (doc : Option Doc) : Entry :=
  ⟨name.toList, aliases.map String.toList, function, .traced, doc⟩

/-- An entry that is not traced. -/
def quiet (name : String) (aliases : List String) (function : Builtin) (doc : Option Doc) : Entry :=
  ⟨name.toList, aliases.map String.toList, function, .silent, doc⟩

/-- The documentation of an entry. -/
def doc (summary usage sample : String) (keywords : List String) : Option Doc :=
  some ⟨summary.toList, usage.toList, sample.toList, keywords.map String.toList⟩

/-- Output and input. -/
def console : List Entry := [
  quiet "print" ["打印"] .print
    (doc "Write the arguments to the output, separated by spaces" "print(value, ...)"
      "print(\"Hello\", \"World\")" ["输出", "显示", "output"]),
  entry "input" ["输入"] .input
    (doc "Ask the user for a line of text" "input(prompt)"
      "name = input(\"Your name: \")" ["读取", "read"])]

/-- Numbers. -/
def numeric : List Entry := [
  entry "abs" ["绝对值"] .abs
    (doc "Absolute value" "abs(number)"
      "result = abs(-5)" ["绝对值", "绝对"]),
  entry "max" ["最大值"] .max
    (doc "Largest of the arguments" "max(a, b, ...)"
      "maximum = max(1, 2, 3)" ["最大", "最大值"]),
  entry "min" ["最小值"] .min
    (doc "Smallest of the arguments" "min(a, b, ...)"
      "minimum = min(1, 2, 3)" ["最小", "最小值"]),
  entry "round" ["四舍五入"] .round
    (doc "Round to the nearest integer, halves up" "round(number)"
      "rounded = round(3.6)" ["四舍五入", "取整"]),
  entry "floor" ["向下取整"] .floor none,
  entry "ceil" ["向上取整"] .ceil none,
  entry "random" ["随机小数"] .random
    (doc "Uniform random number in [0, 1)" "random()"
      "rand = random()" ["随机", "随机数"]),
  entry "randint" ["随机整数"] .randint
    (doc "Random integer in an inclusive range" "randint(min, max)"
      "rand_num = randint(1, 10)" ["随机整数", "随机数"])]

/-- Time. -/
def time : List Entry := [
  entry "now" ["现在时间"] .now
    (doc "Current local time" "now()"
      "current_time = now()" ["时间", "当前时间", "现在"]),
  entry "sleep" ["暂停"] .sleep
    (doc "Pause for the given number of seconds" "sleep(seconds)"
      "sleep(1)" ["暂停", "等待", "延时"])]

/-- Arrays and objects. -/
def containers : List Entry := [
  entry "array" ["list", "列表", "数组"] .array
    (doc "Build an array from the arguments" "array(a, b, ...)"
      "items = array(1, 2, 3)" ["列表", "数组"]),
  entry "push" ["append", "添加"] .push none,
  entry "pop" ["弹出"] .pop none,
  entry "insert" ["插入"] .insert none,
  entry "remove" ["删除元素"] .remove none,
  entry "index_of" ["indexOf", "查找"] .indexOf none,
  entry "sort" ["排序"] .sort none,
  entry "reverse" ["反转"] .reverse none,
  entry "map" ["dict", "字典"] .map
    (doc "Build a map from key, value pairs" "map(key1, value1, key2, value2, ...)"
      "player = map(\"name\", \"Ada\", \"hp\", 100)" ["字典", "对象"]),
  entry "set" ["设置"] .set none,
  entry "get" ["获取"] .get none,
  entry "delete" ["删除"] .delete none,
  entry "keys" ["键列表"] .keys none,
  entry "values" ["值列表"] .values none,
  entry "has" ["包含"] .has none]

/-- Lengths and kinds of values. -/
def kinds : List Entry := [
  entry "len" ["长度"] .len
    (doc "Length of an array or string" "len(value)"
      "length = len([1, 2, 3])" ["长度", "大小", "数量"]),
  entry "type" ["类型"] .type
    (doc "Dynamic type name of a value" "type(value)"
      "var_type = type(name)" ["类型", "种类"]),
  entry "is_number" ["是数字"] .isNumber none,
  entry "is_string" ["是字符串"] .isString none,
  entry "is_array" ["是数组"] .isArray none,
  entry "is_object" ["是对象"] .isObject none,
  entry "is_empty" ["是空"] .isEmpty none]

/-- Accesses with a default. -/
def safeAccess : List Entry := [
  entry "safe_divide" ["安全除法"] .safeDivide
    (doc "Divide, returning a default instead of dividing by zero" "safe_divide(a, b, default?)"
      "ratio = safe_divide(10, 0, 0)" ["除法", "安全"]),
  entry "safe_array_get" ["safe_get", "安全取值"] .safeArrayGet none,
  entry "safe_map_get" ["安全字典取值"] .safeMapGet none]

/-- Conversions between kinds. -/
def conversions : List Entry := [
  entry "str" ["字符串"] .str
    (doc "Convert to a string" "str(value)"
      "text = str(123)" ["字符串", "文本"]),
  entry "int" ["整数"] .int
    (doc "Convert to an integer, truncating toward zero" "int(value)"
      "number = int(\"123\")" ["整数", "数字"]),
  entry "float" ["小数"] .float
    (doc "Convert to a floating point number" "float(value)"
      "decimal = float(\"3.14\")" ["浮点", "小数"]),
  entry "bool" ["布尔"] .bool
    (doc "Convert to a boolean" "bool(value)"
      "is_true = bool(1)" ["布尔", "真假"])]

/-- Functions that raise. -/
def control : List Entry := [
  entry "assert" ["断言"] .assert
    (doc "Raise an error unless the condition is truthy" "assert(condition, message?)"
      "assert(hp > 0, \"player is dead\")" ["断言", "检查"]),
  entry "throw" ["raise", "抛出"] .throw
    (doc "Raise an error with the given message" "throw(message)"
      "throw(\"out of mana\")" ["抛出", "异常", "错误"])]

/-- Documentation. -/
def documentation : List Entry := [
  quiet "search_builtin" ["搜索"] .searchBuiltin
    (doc "Search the builtin functions" "search_builtin(term)"
      "search_builtin(\"print\")" ["搜索", "查找", "内置函数"])]

/-- The functions that are there from the start. -/
def core : List Entry :=
  console ++ numeric ++ time ++ containers ++ kinds ++ safeAccess ++ conversions ++ control ++
    documentation

/-- The functions of the game module. -/
def gameEntries : List Entry := [
  entry "spawn_player" ["创建玩家"] .spawnPlayer
    (doc "Create a player object with full health" "spawn_player(name)"
      "hero = spawn_player(\"Ada\")" ["玩家", "游戏"]),
  entry "roll_dice" ["掷骰子"] .rollDice
    (doc "Roll a die with the given number of sides (default 6)" "roll_dice(sides?)"
      "roll = roll_dice(20)" ["骰子", "随机", "游戏"]),
  entry "attack" ["攻击"] .attack none,
  entry "heal" ["治疗"] .heal none,
  entry "save_game" ["保存游戏"] .saveGame none]

/-- The functions of the text module. -/
def textEntries : List Entry := [
  entry "upper" ["大写"] .upper none,
  entry "lower" ["小写"] .lower none,
  entry "trim" ["去空格"] .trim none,
  entry "split" ["分割"] .split none,
  entry "join" ["连接"] .join none,
  entry "replace" ["替换"] .replace none,
  entry "contains" ["含有"] .contains none]

/-- The game module. -/
def game : Module := ⟨"game".toList, gameEntries⟩

/-- The text module. -/
def text : Module := ⟨"text".toList, textEntries⟩

/-- The modules that every session can import, by their English and Chinese names. -/
def modules : ModuleTable :=
  (ModuleTable.add [] game ["游戏".toList]).add text ["文本".toList]

/-- A registry of the core functions. -/
def coreRegistry : Registry := Registry.empty.registerAll core

/-- A registry of the core functions and of both modules. -/
def fullRegistry : Registry := (coreRegistry.merge game).merge text

end LineScript.Catalogue
