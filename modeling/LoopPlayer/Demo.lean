/-! The program that is shown when no other is given. It uses every lane, chains two continuations
and schedules a microtask in a timer. -/
namespace LoopPlayer

def demoLines : List String := [
  "console.log(\"1: Synchronous - Start\");",
  "",
  "setTimeout(() => \x7b",
  "  console.log(\"2: Macrotask - setTimeout\");",
  "\x7d, 0);",
  "",
  "Promise.resolve().then(() => \x7b",
  "  console.log(\"3: Microtask - Promise.then\");",
  "\x7d);",
  "",
  "queueMicrotask(() => \x7b",
  "  console.log(\"4: Microtask - queueMicrotask\");",
  "\x7d);",
  "",
  "requestAnimationFrame(() => \x7b",
  "  console.log(\"5: Animation - rAF callback\");",
  "\x7d);",
  "",
  "requestIdleCallback(() => \x7b",
  "  console.log(\"6: Idle - requestIdleCallback\");",
  "\x7d);",
  "",
  "Promise.resolve()",
  "  .then(() => \x7b",
  "    console.log(\"7: Microtask - Chained Promise 1\");",
  "    return \"data\";",
  "  \x7d)",
  "  .then((val) => \x7b",
  "    console.log(\"8: Microtask - Chained Promise 2:\", val);",
  "  \x7d);",
  "",
  "setTimeout(() => \x7b",
  "  console.log(\"9: Macrotask - setTimeout 2\");",
  "  Promise.resolve().then(() => \x7b",
  "    console.log(\"10: Microtask inside Macrotask\");",
  "  \x7d);",
  "\x7d, 0);",
  "",
  "console.log(\"11: Synchronous - End\");"]

def demoSource : String := "\n".intercalate demoLines

end LoopPlayer
